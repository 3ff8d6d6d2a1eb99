import Moderation.Audit.Chain
import Moderation.Proofs.Audit.Record
/-!
# What a chain says

A text is a chain of some records exactly if these are the records on its lines, blank ones aside,
and each is linked to the one before it (`records_eq_ok_iff`).  Entries can always be linked
(`AuditEntry.linked_chain`), and what is linked is a chain once it is written (`records_write`).

The links run from the front to the end, and the last hash holds them all: where no two of the
texts that are hashed have one digest, chains that end with one hash are the same
(`Linked.eq_of_hashAfter_eq`), be they of one length or not.  So nobody changes, drops, adds or
moves a record of a chain and keeps its last hash (`eq_of_last_hash_eq`).
-/

namespace Moderation
namespace AuditChain

/-- The lines of a text that are not blank. -/
def filledLines (text : String) : List String :=
  (Text.lines text).filter fun line => !Text.isBlankText line

/-- The hash that the next record is linked to, after some records. -/
def hashAfter (previous : Option String) (rs : List AuditRecord) : Option String :=
  rs.foldl (fun _ r => some r.hash) previous

/-- Records that are each linked to the hash before it and have the hash they should have. -/
def Linked (previous : Option String) : List AuditRecord → Prop
  | [] => True
  | r :: rest => r.previous = previous ∧ r.hash = r.expectedHash ∧ Linked (some r.hash) rest

variable {previous : Option String} {rs ss : List AuditRecord}

@[simp] theorem hashAfter_nil : hashAfter previous [] = previous := rfl

@[simp] theorem hashAfter_cons (r : AuditRecord) :
    hashAfter previous (r :: rs) = hashAfter (some r.hash) rs :=
  rfl

theorem hashAfter_concat (r : AuditRecord) : hashAfter previous (rs ++ [r]) = some r.hash := by
  simp [hashAfter]

theorem hashAfter_eq_getLast (h : rs ≠ []) : hashAfter previous rs = some (rs.getLast h).hash := by
  conv_lhs => rw [← List.dropLast_append_getLast h, hashAfter_concat]

theorem linked_append : Linked previous (rs ++ ss) ↔
    Linked previous rs ∧ Linked (hashAfter previous rs) ss := by
  induction rs generalizing previous with
  | nil => simp [Linked]
  | cons r rest ih => simp only [List.cons_append, Linked, ih, hashAfter_cons, and_assoc]

theorem linked_concat {r : AuditRecord} : Linked previous (rs ++ [r]) ↔
    Linked previous rs ∧ r.previous = hashAfter previous rs ∧ r.hash = r.expectedHash := by
  simp [linked_append, Linked]

theorem Linked.hash_eq (h : Linked previous rs) : ∀ r ∈ rs, r.hash = r.expectedHash := by
  induction rs generalizing previous with
  | nil => simp
  | cons r rest ih =>
    obtain ⟨-, hr, hrest⟩ := h
    exact List.forall_mem_cons.2 ⟨hr, ih hrest⟩

/-- Records whose hashes are all different are hashed from texts that have no collision. -/
theorem Linked.collisionFree (h : Linked previous rs) (hn : (rs.map (·.hash)).Nodup) :
    CollisionFree (rs.map AuditRecord.sealedText) := by
  intro s hs t ht hdigest
  obtain ⟨r, hr, rfl⟩ := List.mem_map.1 hs
  obtain ⟨q, hq, rfl⟩ := List.mem_map.1 ht
  have hhash : r.hash = q.hash := by
    rw [h.hash_eq r hr, h.hash_eq q hq, AuditRecord.expectedHash, hdigest, AuditRecord.expectedHash]
  rw [List.inj_on_of_nodup_map hn hr hq hhash]

/-! ## What the verifier accepts -/

theorem recordOn_eq_ok {line : Nat} {text : String} {r : AuditRecord} :
    recordOn line previous text = .ok r ↔
      AuditRecord.decoder.ofText text = .ok r ∧ r.previous = previous ∧
        r.hash = r.expectedHash := by
  unfold recordOn
  cases AuditRecord.decoder.ofText text with
  | error e => simp
  | ok s =>
    simp only [Except.ok.injEq]
    split
    · next h =>
      constructor
      · intro he
        cases he
      · rintro ⟨rfl, hp, -⟩
        exact absurd hp h
    · next hp =>
      split
      · next h =>
        constructor
        · intro he
          cases he
        · rintro ⟨rfl, -, hh⟩
          exact absurd hh h
      · next hh =>
        rw [Except.ok.injEq]
        constructor
        · rintro rfl
          exact ⟨rfl, not_not.1 hp, not_not.1 hh⟩
        · exact fun h => h.1

theorem recordsOn_eq_ok {line : Nat} {lines : List String} :
    recordsOn line previous lines = .ok rs ↔
      (lines.filter fun l => !Text.isBlankText l).map AuditRecord.decoder.ofText = rs.map .ok ∧
        Linked previous rs := by
  induction lines generalizing line previous rs with
  | nil => cases rs <;> simp [recordsOn, Linked]
  | cons text rest ih =>
    unfold recordsOn
    cases hblank : Text.isBlankText text with
    | true =>
      rw [if_pos rfl, ih, List.filter_cons_of_neg (by simp [hblank])]
    | false =>
      rw [if_neg Bool.false_ne_true, List.filter_cons_of_pos (by simp [hblank]), List.map_cons]
      constructor
      · intro h
        cases hr : recordOn line previous text with
        | error e => simp [hr, bind, Except.bind] at h
        | ok r =>
          cases hrest : recordsOn (line + 1) (some r.hash) rest with
          | error e => simp [hr, hrest, bind, Except.bind] at h
          | ok ss =>
            obtain rfl : r :: ss = rs := by
              simpa [hr, hrest, bind, Except.bind, pure, Except.pure] using h
            obtain ⟨hread, hp, hh⟩ := recordOn_eq_ok.1 hr
            obtain ⟨hlines, hlinked⟩ := ih.1 hrest
            exact ⟨by rw [hread, hlines, List.map_cons], hp, hh, hlinked⟩
      · rintro ⟨hlines, hlinked⟩
        cases rs with
        | nil => simp at hlines
        | cons r ss =>
          obtain ⟨hread, hlines⟩ := List.cons.inj hlines
          obtain ⟨hp, hh, hlinked⟩ := hlinked
          rw [recordOn_eq_ok.2 ⟨hread, hp, hh⟩]
          simp [bind, Except.bind, pure, Except.pure, ih.2 ⟨hlines, hlinked⟩]

/-- **A text is a chain of the records on its lines, if these are linked.** -/
theorem records_eq_ok_iff {text : String} :
    records text = .ok rs ↔
      (filledLines text).map AuditRecord.decoder.ofText = rs.map .ok ∧ Linked none rs :=
  recordsOn_eq_ok

theorem verify_eq_ok_iff {text : String} {n : Nat} :
    verify text = .ok n ↔ ∃ rs, records text = .ok rs ∧ rs.length = n := by
  unfold verify
  cases records text <;> simp [Except.map]

end AuditChain

/-! ## Entries that are linked -/

namespace AuditEntry
open AuditChain

/-- The records of entries that are appended after a hash. -/
def chain (previous : Option String) : List AuditEntry → List AuditRecord
  | [] => []
  | e :: rest => e.link previous :: chain (some (e.link previous).hash) rest

variable {previous : Option String}

@[simp] theorem chain_nil : chain previous [] = [] := rfl

@[simp] theorem chain_cons (e : AuditEntry) (es : List AuditEntry) :
    chain previous (e :: es) = e.link previous :: chain (some (e.link previous).hash) es :=
  rfl

@[simp] theorem map_entry_chain (es : List AuditEntry) :
    (chain previous es).map (·.entry) = es := by
  induction es generalizing previous with
  | nil => rfl
  | cons e es ih => rw [chain_cons, List.map_cons, entry_link, ih]

@[simp] theorem length_chain (es : List AuditEntry) : (chain previous es).length = es.length := by
  rw [← List.length_map (fun r : AuditRecord => r.entry), map_entry_chain]

theorem linked_chain (es : List AuditEntry) : Linked previous (chain previous es) := by
  induction es generalizing previous with
  | nil => trivial
  | cons e es ih => exact ⟨previous_link e previous, hash_link e previous, ih⟩

theorem chain_append (es fs : List AuditEntry) :
    chain previous (es ++ fs) =
      chain previous es ++ chain (hashAfter previous (chain previous es)) fs := by
  induction es generalizing previous with
  | nil => rfl
  | cons e es ih =>
    rw [List.cons_append, chain_cons, ih, chain_cons, hashAfter_cons, List.cons_append]

end AuditEntry

namespace AuditChain

/-- A ban and a kick. -/
def banThenKick : List AuditEntry :=
  [{ id := "a", action := "ban", result := "ok", actor := "@m:x", entity := "@u:x", time := "t" },
    { id := "b", action := "kick", result := "ok", actor := "@m:x", entity := "@u:x", time := "t" }]

theorem hash_link_eq (e : AuditEntry) (previous : Option String) : (e.link previous).hash =
    Text.toHex (sha256Text (Json.object (textMembers AuditRecord.canonicalNames
      { entry := e, previous, hash := "" : AuditRecord }.text?)).render).toList := by
  rw [AuditEntry.hash_link, AuditRecord.expectedHash, AuditRecord.sealedText_eq]
  simp only [AuditEntry.entry_link, AuditEntry.previous_link]

theorem hash_ban : (banThenKick[0].link none).hash =
    "c568ed4e8d610436c7c6b20f56b217fe53736dc4988aa6b2340d6300625c2e56" := by
  rw [hash_link_eq]
  decide +kernel

theorem hash_kick : (banThenKick[1].link
      (some "c568ed4e8d610436c7c6b20f56b217fe53736dc4988aa6b2340d6300625c2e56")).hash =
    "e64f12f40d2e98ac6865075713a19c9d853745c2ee0594ea7d1669abc04ffbef" := by
  rw [hash_link_eq]
  decide +kernel

theorem nodup_hashes_banThenKick :
    ((AuditEntry.chain none banThenKick).map (·.hash)).Nodup := by
  change [(banThenKick[0].link none).hash,
    (banThenKick[1].link (some (banThenKick[0].link none).hash)).hash].Nodup
  rw [hash_ban, hash_kick]
  decide

/-! ## The text of a chain -/

/-- Records as a text, one a line. -/
def write (rs : List AuditRecord) : String := Text.unlines (rs.map fun r => r.toJson.render)

theorem write_append (rs ss : List AuditRecord) : write (rs ++ ss) = write rs ++ write ss := by
  rw [write, List.map_append, Text.unlines_append, write, write]

theorem lines_write (rs : List AuditRecord) :
    Text.lines (write rs) = rs.map fun r => r.toJson.render := by
  refine Text.lines_unlines fun l hl => ?_
  obtain ⟨r, -, rfl⟩ := List.mem_map.1 hl
  exact r.isLine_render

/-- **The lines of a text that was written decode to the records.** -/
theorem map_ofText_lines_write (rs : List AuditRecord) :
    (Text.lines (write rs)).map AuditRecord.decoder.ofText = rs.map .ok := by
  rw [lines_write, List.map_map]
  exact List.map_congr_left fun r _ => r.ofText_render

theorem filledLines_write (rs : List AuditRecord) :
    filledLines (write rs) = Text.lines (write rs) := by
  rw [filledLines, lines_write]
  refine List.filter_eq_self.2 fun l hl => ?_
  obtain ⟨r, -, rfl⟩ := List.mem_map.1 hl
  simpa using r.not_blank_append ""

/-- A text after one that is ended adds its own lines to those that are not blank. -/
theorem filledLines_append {s : String} (h : Text.Ended s) (t : String) :
    filledLines (s ++ t) = filledLines s ++ filledLines t := by
  rw [filledLines, Text.lines_append h, List.filter_append, filledLines, filledLines]

/-- **What is linked is a chain once it is written.** -/
theorem records_write {rs : List AuditRecord} (h : Linked none rs) :
    records (write rs) = .ok rs := by
  rw [records_eq_ok_iff, filledLines_write]
  exact ⟨map_ofText_lines_write rs, h⟩

theorem verify_write {rs : List AuditRecord} (h : Linked none rs) :
    verify (write rs) = .ok rs.length :=
  verify_eq_ok_iff.2 ⟨rs, records_write h, rfl⟩

/-! ## The last hash -/

/-- **Chains that end with one hash are the same**, where no two of the texts that are hashed have
one digest. -/
theorem Linked.eq_of_hashAfter_eq {texts : List String} (hcf : CollisionFree texts)
    (hr : ∀ r ∈ rs, r.sealedText ∈ texts) (hs : ∀ s ∈ ss, s.sealedText ∈ texts)
    (hlr : Linked none rs) (hls : Linked none ss) (h : hashAfter none rs = hashAfter none ss) :
    rs = ss := by
  -- From the end: one hash stands for one record, and that record says which hash comes before it.
  -- Only a first record says that there is none, so the chains begin at the same place.
  induction rs using List.reverseRecOn generalizing ss with
  | nil =>
    rcases List.eq_nil_or_concat' ss with rfl | ⟨ss, s, rfl⟩
    · rfl
    · rw [hashAfter_concat] at h
      cases h
  | append_singleton rs r ih =>
    rcases List.eq_nil_or_concat' ss with rfl | ⟨ss, s, rfl⟩
    · rw [hashAfter_concat] at h
      cases h
    · rw [hashAfter_concat, hashAfter_concat] at h
      obtain ⟨hfront, hpr, hhr⟩ := linked_concat.1 hlr
      obtain ⟨hfront', hps, hhs⟩ := linked_concat.1 hls
      have heq : r = s := AuditRecord.eq_of_hash_eq hcf (hr r (by simp)) (hs s (by simp)) hhr hhs
        (Option.some.inj h)
      have hprevious : hashAfter none rs = hashAfter none ss := by rw [← hpr, ← hps, heq]
      rw [heq, ih (fun q hq => hr q (List.mem_append_left _ hq))
        (fun q hq => hs q (List.mem_append_left _ hq)) hfront hfront' hprevious]

/-- **The last hash of a chain holds all of it**: texts that are chains, not empty ones, and whose
last records have one hash, hold the same records, where SHA-256 does not give two of the texts that
are hashed one digest. -/
theorem eq_of_last_hash_eq {text text' : String} {rs rs' : List AuditRecord}
    (h : records text = .ok rs) (h' : records text' = .ok rs') (hne : rs ≠ []) (hne' : rs' ≠ [])
    (hlast : (rs.getLast hne).hash = (rs'.getLast hne').hash)
    (hcf : CollisionFree ((rs ++ rs').map AuditRecord.sealedText)) : rs = rs' := by
  have hmem {r : AuditRecord} (hr : r ∈ rs ++ rs') :
      r.sealedText ∈ (rs ++ rs').map AuditRecord.sealedText :=
    List.mem_map_of_mem hr
  refine Linked.eq_of_hashAfter_eq hcf (fun r hr => hmem (List.mem_append_left _ hr))
    (fun r hr => hmem (List.mem_append_right _ hr)) (records_eq_ok_iff.1 h).2
    (records_eq_ok_iff.1 h').2 ?_
  rw [hashAfter_eq_getLast hne, hashAfter_eq_getLast hne', hlast]

/-- The chain of a ban and a kick, written with a blank line in front and without: the last hash
is the same, and so is the rest. -/
theorem eq_of_last_hash_eq_banThenKick :
    ∃ rs rs', records (write (AuditEntry.chain none banThenKick)) = .ok rs ∧
      records ("\n" ++ write (AuditEntry.chain none banThenKick)) = .ok rs' ∧
      rs.length = 2 ∧ rs = rs' := by
  have hlinked : Linked none (AuditEntry.chain none banThenKick) := AuditEntry.linked_chain _
  have hplain := records_write hlinked
  have hblank : records ("\n" ++ write (AuditEntry.chain none banThenKick)) =
      .ok (AuditEntry.chain none banThenKick) := by
    have hfeed : Text.Ended "\n" := by
      intro c hc
      simpa using hc.symm
    rw [records_eq_ok_iff, filledLines_append hfeed]
    exact records_eq_ok_iff.1 hplain
  have hne : AuditEntry.chain none banThenKick ≠ [] := List.cons_ne_nil _ _
  refine ⟨_, _, hplain, hblank, AuditEntry.length_chain _,
    eq_of_last_hash_eq hplain hblank hne hne rfl ?_⟩
  have hfree := hlinked.collisionFree nodup_hashes_banThenKick
  intro s hs t ht
  exact hfree s (by simpa using hs) t (by simpa using ht)

end AuditChain
end Moderation
