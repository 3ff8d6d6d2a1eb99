import Moderation.Audit.Record
import Moderation.Proofs.Digest.Hex
import Moderation.Proofs.Policy.StateKey
import Moderation.Proofs.Text.Lines
import Moderation.Proofs.Wire.Content
/-!
# Records of a log

A record is written as one line (`isLine_render`) that reads back as the record (`ofText_render`).
The text that its hash is taken over leaves out no part of it but the hash, although the members
stand in canonical order there: records with one such text have the same entry and the same link
(`sealedText_inj`).  Where no two of these texts have one digest, a hash therefore stands for one
record (`eq_of_hash_eq`).
-/

namespace Moderation
open Json Json.Decoder

/-- The members that some names have, those that a text is given for. -/
def textMembers (names : List String) (text? : String → Option String) : List (String × Json) :=
  names.flatMap fun name => optionalMember name ((text? name).map .string)

section
variable {names : List String} {text? : String → Option String}

theorem mem_textMembers {m : String × Json} :
    m ∈ textMembers names text? ↔ m.1 ∈ names ∧ ∃ s, text? m.1 = some s ∧ m.2 = .string s := by
  obtain ⟨name, j⟩ := m
  simp only [textMembers, optionalMember, List.mem_flatMap, Option.map_map, Option.mem_toList,
    Option.map_eq_some_iff, Function.comp_apply, Prod.mk.injEq]
  constructor
  · rintro ⟨_, hname, s, hs, rfl, rfl⟩
    exact ⟨hname, s, hs, rfl⟩
  · rintro ⟨hname, s, hs, rfl⟩
    exact ⟨name, hname, s, hs, rfl, rfl⟩

/-- The members stand in the order of the names. -/
theorem sublist_textMembers : ((textMembers names text?).map (·.1)).Sublist names := by
  induction names with
  | nil => exact List.Sublist.refl []
  | cons name rest ih =>
    rw [textMembers, List.flatMap_cons, List.map_append]
    have hfirst :
        ((optionalMember name ((text? name).map .string)).map (·.1)).Sublist [name] := by
      cases text? name <;> simp [optionalMember]
    exact hfirst.append ih

theorem nodup_textMembers (h : names.Nodup) : ((textMembers names text?).map (·.1)).Nodup :=
  sublist_textMembers.nodup h

theorem membersExact_textMembers : membersExact (textMembers names text?) = true := by
  refine membersExact_iff.2 fun m hm => ?_
  obtain ⟨-, s, -, hs⟩ := mem_textMembers.1 hm
  rw [hs]
  rfl

theorem sortedMembers_textMembers :
    sortedMembers (textMembers names text?) = textMembers names text? :=
  sortedMembers_of_texts fun m hm => by
    obtain ⟨-, s, -, hs⟩ := mem_textMembers.1 hm
    exact ⟨s, hs⟩

/-- In canonical form the members stand in the order of the names that are sorted. -/
theorem sorted_textMembers {names' : List String} (hp : names.Perm names')
    (hle : names'.Pairwise fun a b => nameLe a b = true)
    (hanti : ∀ a ∈ names', ∀ b ∈ names', nameLe a b = true → nameLe b a = true → a = b) :
    (Json.object (textMembers names text?)).sorted = .object (textMembers names' text?) := by
  have hperm : (textMembers names text?).Perm (textMembers names' text?) := hp.flatMap_right _
  have hsorted := @List.pairwise_mergeSort _ (fun m n : String × Json => nameLe m.1 n.1)
    (fun _ _ _ => nameLe_trans) (fun _ _ => nameLe_total _ _) (textMembers names text?)
  rw [sorted, sortedMembers_textMembers]
  refine congrArg Json.object (List.Perm.eq_of_pairwise ?_ hsorted
    (List.pairwise_map.1 (hle.sublist sublist_textMembers))
    ((List.mergeSort_perm _ _).trans hperm))
  intro m n hm hn hmn hnm
  obtain ⟨hname, s, hs, hv⟩ := mem_textMembers.1 (hperm.subset (List.mem_mergeSort.1 hm))
  obtain ⟨hname', s', hs', hv'⟩ := mem_textMembers.1 hn
  have hnames : m.1 = n.1 := hanti _ hname _ hname' hmn hnm
  have htexts : s = s' := Option.some.inj (by rw [← hs, ← hs', hnames])
  exact Prod.ext hnames (by rw [hv, hv', htexts])

end

namespace AuditRecord

/-- The names of the members of a record, those that may be absent included. -/
def memberNames : List String :=
  ["audit_id", "action", "result", "actor", "entity", "list_room", "state_key", "event_id",
    "detail", "ts", "prev_hash", "record_hash"]

/-- The text that a record has under a name. -/
def text? (r : AuditRecord) : String → Option String
  | "audit_id" => some r.entry.id
  | "action" => some r.entry.action
  | "result" => some r.entry.result
  | "actor" => some r.entry.actor
  | "entity" => some r.entry.entity
  | "list_room" => r.entry.listRoom
  | "state_key" => r.entry.stateKey
  | "event_id" => r.entry.eventId
  | "detail" => r.entry.detail
  | "ts" => some r.entry.time
  | "prev_hash" => r.previous
  | "record_hash" => some r.hash
  | _ => none

/-- The members that a record is written with. -/
def members (r : AuditRecord) : List (String × Json) := textMembers memberNames r.text?

theorem toJson_eq (r : AuditRecord) : r.toJson = .object r.members := by
  simp [toJson, members, textMembers, memberNames, text?, optionalMember]

theorem nodup_memberNames : memberNames.Nodup := by decide

theorem slots_fields : fields.slots.map (·.name) = memberNames := rfl

theorem toJson_isExact (r : AuditRecord) : r.toJson.isExact = true := by
  rw [toJson_eq]
  exact membersExact_textMembers

theorem toJson_depth (r : AuditRecord) : r.toJson.depth ≤ Draft.depthLimit := by
  have hflat : ∀ ms : List (String × Json), (∀ m ∈ ms, m.2.depth = 0) → membersDepth ms = 0 := by
    intro ms h
    induction ms with
    | nil => rfl
    | cons m rest ih =>
      simp [membersDepth, h m List.mem_cons_self, ih fun m hm => h m (List.mem_cons_of_mem _ hm)]
  have hzero : membersDepth r.members = 0 := hflat r.members fun m hm => by
    obtain ⟨-, s, -, hs⟩ := mem_textMembers.1 hm
    rw [hs]
    rfl
  rw [toJson_eq, depth, hzero]
  decide

/-! ## Reading a record -/

theorem reads (r : AuditRecord) : decoder.Reads r.toJson r := by
  have hfields := Fields.Reads.map
      (fun id action result actor entity listRoom stateKey eventId detail time previous hash =>
        AuditRecord.mk ⟨id, action, result, actor, entity, listRoom, stateKey, eventId, detail,
          time⟩ previous hash)
      (.required "audit_id" (reads_string r.entry.id))
    |>.seq (.required "action" (reads_string r.entry.action))
    |>.seq (.required "result" (reads_string r.entry.result))
    |>.seq (.required "actor" (reads_string r.entry.actor))
    |>.seq (.required "entity" (reads_string r.entry.entity))
    |>.seq (.optional_text "list_room" r.entry.listRoom)
    |>.seq (.optional_text "state_key" r.entry.stateKey)
    |>.seq (.optional_text "event_id" r.entry.eventId)
    |>.seq (.optional_text "detail" r.entry.detail)
    |>.seq (.required "ts" (reads_string r.entry.time))
    |>.seq (.optional_text "prev_hash" r.previous)
    |>.seq (.required "record_hash" (reads_string r.hash))
  exact hfields.record false nodup_memberNames

theorem decoder_toDraft (r : AuditRecord) : decoder r.toJson.toDraft = .ok r := r.reads.decoded

/-- **The text of a record reads back as the record.** -/
theorem ofText_render (r : AuditRecord) : decoder.ofText r.toJson.render = .ok r :=
  r.reads.ofText_render

theorem parse?_render (r : AuditRecord) : Json.parse? r.toJson.render = some r.toJson :=
  Json.parse?_render r.toJson_isExact r.toJson_depth

/-- The text of a record as characters: it stands between braces. -/
theorem toList_render (r : AuditRecord) :
    r.toJson.render.toList = '\x7b' :: (membersChars r.members ++ ['\x7d']) := by
  simp [toJson_eq, render, chars]

/-- **The text of a record is one line**, and not a blank one. -/
theorem isLine_render (r : AuditRecord) : Text.IsLine r.toJson.render where
  noFeed := by
    rw [render, String.toList_ofList]
    exact feed_notMem_chars r.toJson r.toJson_isExact
  noReturn := by
    rw [toList_render, List.getLast?_cons_of_ne_nil (by simp), List.getLast?_concat]
    decide

theorem not_blank_append (r : AuditRecord) (s : String) :
    Text.isBlankText (s ++ r.toJson.render) = false := by
  have hbrace : Text.isBlank '\x7b' = false := by decide
  simp [Text.isBlankText, String.toList_append, toList_render, hbrace]

theorem render_ne_empty (r : AuditRecord) : r.toJson.render ≠ "" := by
  intro h
  have hchars := congrArg String.toList h
  rw [toList_render] at hchars
  cases hchars

/-! ## The hash of a record -/

/-- The names of the members of a record, in canonical order. -/
def canonicalNames : List String :=
  ["action", "actor", "audit_id", "detail", "entity", "event_id", "list_room", "prev_hash",
    "record_hash", "result", "state_key", "ts"]

/-- **The text that a hash is taken over**: the members of the record in canonical order, with an
empty hash. -/
theorem sealedText_eq (r : AuditRecord) :
    r.sealedText =
      (Json.object (textMembers canonicalNames { r with hash := "" }.text?)).render := by
  have hperm : memberNames.Perm canonicalNames := by decide
  have hle : canonicalNames.Pairwise fun a b => nameLe a b = true := by decide +kernel
  have hanti : ∀ a ∈ canonicalNames, ∀ b ∈ canonicalNames,
      nameLe a b = true → nameLe b a = true → a = b := by decide +kernel
  rw [sealedText, toJson_eq, canonical, members, sorted_textMembers hperm hle hanti]

/-- **The text that a hash is taken over tells records apart**, their hashes aside. -/
theorem sealedText_inj {r s : AuditRecord} (h : r.sealedText = s.sealedText) :
    r.entry = s.entry ∧ r.previous = s.previous := by
  simp only [sealedText, toJson_eq] at h
  have hperm := perm_of_canonical_eq membersExact_textMembers membersExact_textMembers h
  rw [sortedMembers_textMembers, sortedMembers_textMembers] at hperm
  have hr := decoder_toDraft { r with hash := "" }
  have hs := decoder_toDraft { s with hash := "" }
  rw [toJson_eq] at hr hs
  have heq := record_eq_of_perm hperm (nodup_textMembers nodup_memberNames) hr hs
  exact ⟨(AuditRecord.mk.inj heq).1, (AuditRecord.mk.inj heq).2.1⟩

/-- Where no two of the texts that are hashed have one digest, a hash stands for one record. -/
theorem eq_of_hash_eq {texts : List String} (hcf : CollisionFree texts) {r s : AuditRecord}
    (hr : r.sealedText ∈ texts) (hs : s.sealedText ∈ texts) (hrh : r.hash = r.expectedHash)
    (hsh : s.hash = s.expectedHash) (h : r.hash = s.hash) : r = s := by
  have hdigest : sha256Text r.sealedText = sha256Text s.sealedText :=
    digest_eq_of_toHex_eq (hrh.symm.trans (h.trans hsh))
  obtain ⟨hentry, hprevious⟩ := sealedText_inj (hcf _ hr _ hs hdigest)
  obtain ⟨e, p, x⟩ := r
  obtain ⟨f, q, y⟩ := s
  obtain rfl : e = f := hentry
  obtain rfl : p = q := hprevious
  obtain rfl : x = y := h
  rfl

end AuditRecord

/-! ## Records that are linked -/

namespace AuditEntry

variable (e : AuditEntry) (previous : Option String)

@[simp] theorem entry_link : (e.link previous).entry = e := by rw [link]

@[simp] theorem previous_link : (e.link previous).previous = previous := by rw [link]

theorem hash_link : (e.link previous).hash = (e.link previous).expectedHash := by
  simp only [link, AuditRecord.expectedHash, AuditRecord.sealedText]

end AuditEntry
end Moderation
