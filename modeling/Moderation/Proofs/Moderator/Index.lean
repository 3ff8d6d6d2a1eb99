import Moderation.Proofs.Moderator.Deeds
import Moderation.Proofs.Policy.StateKey
import Moderation.Proofs.Store.Backends
/-!
# The index of users behind digests

A store keeps the users that it was told to remember under their digests, in a table if it is a
database (`Store.hasIndex`).  What is behind a digest is the last of them that has it
(`Store.reverse_rememberAll`); rules that are published do not matter to it.  So it has that digest
indeed, and if no two of the users have one digest, each of them is behind its own
(`Store.reverse_of_mem`).

Neither does it matter to the rules who is remembered.  A store whose rules can be read goes on to
be one, whatever is published (`Store.readable_publishAll`).
-/

namespace Moderation

/-- The rows that are left when some are deleted can be read if all of them could be. -/
theorem PolicyRow.exists_mapM_filter {rows : List PolicyRow} {records : List PolicyRecord}
    (h : rows.mapM toRecord? = some records) (keep : PolicyRow → Bool) :
    ∃ left, (rows.filter keep).mapM toRecord? = some left := by
  rw [← Option.isSome_iff_exists, isSome_mapM_toRecord?]
  intro row hrow
  exact isSome_mapM_toRecord?.1 (Option.isSome_of_eq_some h) row (List.mem_filter.1 hrow).1

namespace Store

variable {s : Store}

/-- Whether a store has a place for users: a memory has one, a database if the table is there. -/
def hasIndex : Store → Bool
  | .memory _ => true
  | .database d => d.hashes.isSome

theorem hasIndex_remember (s : Store) (user : String) :
    (s.remember user).hasIndex = s.hasIndex := by
  cases s with
  | memory => rfl
  | database d => simp [hasIndex, remember, Database.remember]

/-! ## Who is behind a digest -/

theorem reverse_publish (s : Store) (r : PolicyRecord) (digest : Digest) :
    (s.publish r).reverse digest = s.reverse digest := by
  cases s <;> rfl

theorem reverse_publishAll (records : List PolicyRecord) (s : Store) (digest : Digest) :
    (s.publishAll records).reverse digest = s.reverse digest := by
  induction records generalizing s with
  | nil => rfl
  | cons r records ih => exact (ih (s.publish r)).trans (reverse_publish s r digest)

theorem reverse_remember (h : s.hasIndex = true) (user : String) (digest : Digest) :
    (s.remember user).reverse digest =
      if digest = sha256Text user then some user else s.reverse digest := by
  cases s with
  | memory m => exact MemoryStore.reverse_remember m user digest
  | database d => exact Database.reverse_remember h user digest

/-- **Behind a digest is the last of the users that has it.** -/
theorem reverse_rememberAll (h : s.hasIndex = true) (users : List String) (digest : Digest) :
    (s.rememberAll users).reverse digest =
      (users.reverse.find? fun user => sha256Text user = digest).or (s.reverse digest) := by
  induction users generalizing s with
  | nil => rfl
  | cons user users ih =>
    have hcons : s.rememberAll (user :: users) = (s.remember user).rememberAll users := rfl
    rw [hcons, ih ((hasIndex_remember s user).trans h), reverse_remember h, List.reverse_cons,
      List.find?_append, Option.or_assoc]
    by_cases hdigest : digest = sha256Text user
    · simp [hdigest]
    · simp [hdigest, Ne.symm hdigest]

/-- **Whoever is behind a digest has it**, and was remembered. -/
theorem mem_of_reverse (h : s.hasIndex = true) (hempty : ∀ digest, s.reverse digest = none)
    {users : List String} {digest : Digest} {user : String}
    (hreverse : (s.rememberAll users).reverse digest = some user) :
    user ∈ users ∧ sha256Text user = digest := by
  rw [reverse_rememberAll h, hempty, Option.or_none] at hreverse
  exact ⟨List.mem_reverse.1 (List.mem_of_find?_eq_some hreverse),
    by simpa using List.find?_some hreverse⟩

/-- **Whoever was remembered is behind its digest**, where no two users have one digest. -/
theorem reverse_of_mem (h : s.hasIndex = true) {users : List String} (hcf : CollisionFree users)
    {user : String} (hmem : user ∈ users) :
    (s.rememberAll users).reverse (sha256Text user) = some user := by
  rw [reverse_rememberAll h]
  cases hfind : users.reverse.find? fun other => sha256Text other = sha256Text user with
  | none =>
    have hnone := List.find?_eq_none.1 hfind user (List.mem_reverse.2 hmem)
    simp at hnone
  | some other =>
    have hother := List.mem_reverse.1 (List.mem_of_find?_eq_some hfind)
    have hdigest : sha256Text other = sha256Text user := by simpa using List.find?_some hfind
    rw [hcf other hother user hmem hdigest]
    rfl

/-! ## Rules that can be read -/

theorem readable_publish (h : s.records?.isSome = true) (r : PolicyRecord) :
    (s.publish r).records?.isSome = true := by
  obtain ⟨records, hrecords⟩ := Option.isSome_iff_exists.1 h
  cases s with
  | memory => rfl
  | database d =>
    obtain ⟨rows, hrows, hread⟩ := Option.bind_eq_some_iff.1 hrecords
    simp only [publish, records?, Database.publish, Database.records?, hrows, Option.map_some,
      Option.bind_some]
    cases hr : r.content.isTombstone with
    | true =>
      obtain ⟨left, hleft⟩ := PolicyRow.exists_mapM_filter hread
        (·.key ≠ (PolicyRow.ofRecord r).key)
      exact Option.isSome_iff_exists.2 ⟨left, hleft⟩
    | false => exact Option.isSome_iff_exists.2 ⟨_, PolicyRow.mapM_upsert hread r hr⟩

theorem readable_publishAll (h : s.records?.isSome = true) (records : List PolicyRecord) :
    (s.publishAll records).records?.isSome = true := by
  induction records generalizing s with
  | nil => exact h
  | cons r records ih => exact ih (readable_publish h r)

theorem records?_rememberAll (users : List String) (s : Store) :
    (s.rememberAll users).records? = s.records? := by
  induction users generalizing s with
  | nil => rfl
  | cons user users ih => exact (ih (s.remember user)).trans (records?_remember s user)

end Store
end Moderation
