import Moderation.Proofs.Moderator.Placing
import Moderation.Proofs.Moderator.StandingUnban
import Moderation.Proofs.Store.History
import Moderation.Proofs.Store.Kinds
/-!
# Rules that cannot be read

The rows of a database may have been written by others, and one row of a kind that cannot be read
makes every query for that kind find nothing (`Store.find_of_unreadable`).  So an unban in a list
that is watched blocks the bans of its entity if and only if all rows of its kind can be read: if
they can, whoever asks for a ban is refused, and if one of them cannot, the ban is published
(`Session.blocked_iff_readable`).
-/

namespace Moderation

variable {σ : Type} {ctx : Context σ}

/-! ## Rows that are read -/

namespace PolicyRow

/-- The content of a row can be read. -/
def Readable (row : PolicyRow) : Prop := ∃ c, PolicyContent.decoder.ofText row.content = .ok c

/-- A row of a list that is watched recommends an unban of an entity, named openly or by its
digest. -/
structure Unbans (ctx : Context σ) (row : PolicyRow) (kind : EntityKind) (entity : String) :
    Prop where
  watched : row.listRoom ∈ ctx.watched
  kind_eq : row.kind = kind.name
  content : ∃ c, PolicyContent.decoder.ofText row.content = .ok c ∧
    c.recommendation = some .unban ∧ c.Names entity

theorem isSome_toRecord?_of_kind {row : PolicyRow} {kind : EntityKind} (h : row.kind = kind.name) :
    row.toRecord?.isSome = true ↔ row.Readable := by
  rw [toRecord?_of_kind h, record?, Readable]
  cases PolicyContent.decoder.ofText row.content <;> simp

end PolicyRow

namespace Store

variable {d : Database} {rows : List PolicyRow} {q : PolicyQuery} {kind : EntityKind}

/-- The rules of a kind are read as a whole or not at all. -/
theorem isSome_recordsOf?_database (hrows : d.policies = some rows) (kind : EntityKind) :
    ((Store.database d).recordsOf? kind).isSome = true ↔
      ∀ row ∈ rows, row.kind = kind.name → row.Readable := by
  rw [recordsOf?, hrows, Option.bind_some, PolicyRow.isSome_mapM_toRecord?]
  simp only [List.mem_filter, decide_eq_true_eq, and_imp]
  exact forall₂_congr fun row _ =>
    forall_congr' fun hkind => PolicyRow.isSome_toRecord?_of_kind hkind

/-- Where a rule of its kind cannot be read a query finds nothing. -/
theorem find_of_unreadable (hrows : d.policies = some rows)
    (h : ∃ row ∈ rows, row.kind = q.kind.name ∧ ¬row.Readable) :
    (Store.database d).find q = [] := by
  have hnone : (Store.database d).recordsOf? q.kind = none := by
    rw [← Option.not_isSome_iff_eq_none, isSome_recordsOf?_database hrows]
    obtain ⟨row, hrow, hkind, hbad⟩ := h
    exact fun hall => hbad (hall row hrow hkind)
  rw [find_eq, hnone]
  rfl

/-- Where all rules of its kind can be read an unban is found. -/
theorem exists_unban_of_readable (hrows : d.policies = some rows)
    (h : ∀ row ∈ rows, row.kind = q.kind.name → row.Readable) {row : PolicyRow} (hrow : row ∈ rows)
    (hunbans : row.Unbans ctx q.kind q.value) (hlists : q.lists = some ctx.watched) :
    ∃ u ∈ (Store.database d).find q, u.recommendation = some .unban := by
  obtain ⟨records, hrecords⟩ :=
    Option.isSome_iff_exists.1 ((isSome_recordsOf?_database hrows q.kind).2 h)
  obtain ⟨c, hc, hunban, hnames⟩ := hunbans.content
  have hread : (rows.filter (·.kind = q.kind.name)).mapM PolicyRow.toRecord? = some records := by
    rwa [recordsOf?, hrows] at hrecords
  obtain ⟨u, hu, hrecord⟩ := PolicyRow.exists_mem_of_mapM hread
    (List.mem_filter.2 ⟨hrow, by simpa using hunbans.kind_eq⟩)
  rw [PolicyRow.toRecord?_of_kind hunbans.kind_eq, PolicyRow.record?, hc] at hrecord
  obtain rfl := Option.some.inj hrecord
  have hrule : c.isTombstone = false := by simp [PolicyContent.isTombstone, hunban]
  have hscope : ∀ lists, q.lists = some lists → row.listRoom ∈ lists := fun lists hl =>
    Option.some.inj (hlists.symm.trans hl) ▸ hunbans.watched
  have hfound :=
    List.mem_filter.2 ⟨hu, (PolicyQuery.accepts_iff hrule).2 ⟨rfl, hscope, .inl hnames⟩⟩
  rw [← find_eq_filter_of_kind hrecords] at hfound
  exact ⟨_, hfound, hunban⟩

end Store

/-! ## What is planned -/

namespace Mutation

variable {m : Mutation} {store : Store} {recommendation : Recommendation}
  (hchange : m.change.recommendation? = some recommendation)
include hchange

/-- A mutation that finds nothing goes ahead. -/
theorem plan_of_nothing (watched : List String) (hnone : store.find (m.query watched) = []) :
    ∃ p, m.plan watched store = .ok p ∧ p.content.recommendation = some recommendation := by
  have hok : ∃ hashed reason, m.plan watched store =
      .ok (Publication.rule m.entity recommendation reason hashed none) := by
    unfold plan decide
    rw [hnone]
    cases hc : m.change with
    | ban _ reason hashed =>
      cases hc ▸ hchange
      exact ⟨hashed, reason, rfl⟩
    | reportBan reason | unban reason =>
      cases hc ▸ hchange
      exact ⟨false, reason, rfl⟩
    | remove => cases hc ▸ hchange
  obtain ⟨hashed, reason, hplan⟩ := hok
  refine ⟨_, hplan, ?_⟩
  cases hashed <;> rfl

variable (hban : recommendation.isBanLike = true)
include hban

/-- Bans are asked about in all lists that are watched. -/
theorem query_of_ban (hissued : m.Issued ctx) : (m.query ctx.watched).kind = m.kind ∧
    (m.query ctx.watched).value = m.entity ∧ (m.query ctx.watched).lists = some ctx.watched := by
  cases hc : m.change with
  | ban =>
    unfold query
    simp only [hc, and_self]
  | reportBan reason =>
    unfold query
    simp only [hc, hissued.kind_of_report hc, and_self]
  | unban =>
    cases hc ▸ hchange
    cases hban
  | remove => cases hc ▸ hchange

/-- A ban that finds an unban is refused. -/
theorem plan_of_unban (watched : List String) {u : PolicyRecord}
    (hu : u ∈ store.find (m.query watched)) (hunban : u.recommendation = some .unban) :
    ∃ why, m.plan watched store = .error (.unbanRecommended m.entity why) := by
  unfold plan decide
  cases hc : m.change with
  | ban =>
    obtain ⟨why, hrefused⟩ := Decision.ban_of_unban hu hunban m.list.roomId m.entity
    simp only [hrefused]
    exact ⟨why, rfl⟩
  | reportBan =>
    obtain ⟨why, hrefused⟩ := Decision.reportBan_of_unban hu hunban m.list.roomId m.entity
    simp only [hrefused]
    exact ⟨why, rfl⟩
  | unban =>
    cases hc ▸ hchange
    cases hban
  | remove => cases hc ▸ hchange

end Mutation

/-! ## What comes of a request -/

namespace Session

variable {message : Message} {w : World σ} {m : Mutation}

/-- **An unban blocks bans if and only if the rules of its kind can be read.**  Whatever rows the
table of rules has, where one of a list that is watched unbans an entity and a command or a report
asks for a ban of it: if all rows of that kind can be read, the request is refused and nothing is
published; and if one of them cannot, in whatever list it is, the ban is published. -/
theorem blocked_iff_readable {d : Database} {rows : List PolicyRow} {row : PolicyRow}
    {recommendation : Recommendation} (hstore : w.store = .database d)
    (hrows : d.policies = some rows) (hasked : asked? ctx message w = some m)
    (hchange : m.change.recommendation? = some recommendation)
    (hban : recommendation.isBanLike = true) (hrow : row ∈ rows)
    (hunbans : row.Unbans ctx m.kind m.entity) :
    ((∀ other ∈ rows, other.kind = m.kind.name → other.Readable) →
        (∃ why, m.plan ctx.watched w.store = .error (.unbanRecommended m.entity why)) ∧
          (take ctx message w).1.isDone = false ∧ w.Still (take ctx message w).2) ∧
      ((∃ other ∈ rows, other.kind = m.kind.name ∧ ¬other.Readable) →
        ∃ p, p.content.recommendation = some recommendation ∧
          (take ctx message w).2.publications = w.publications ++ [m.effect p]) := by
  obtain ⟨hkind, hvalue, hlists⟩ :=
    Mutation.query_of_ban hchange hban (issued_of_asked? hasked)
  rw [← hkind] at hunbans ⊢
  constructor
  · intro hreadable
    obtain ⟨u, hu, hunban⟩ :=
      Store.exists_unban_of_readable hrows hreadable hrow (hvalue ▸ hunbans) hlists
    obtain ⟨why, hplan⟩ := Mutation.plan_of_unban hchange hban ctx.watched hu hunban
    rw [← hstore] at hplan
    exact ⟨⟨why, hplan⟩, still_of_refused hasked hplan⟩
  · intro hunreadable
    have hnone := Store.find_of_unreadable hrows hunreadable
    obtain ⟨p, hplan, hp⟩ := Mutation.plan_of_nothing hchange ctx.watched hnone
    rw [← hstore] at hplan
    exact ⟨p, hp, (sent_of_planned hasked hplan).1⟩

/-- A row that unbans a user. -/
def unbanRow : PolicyRow :=
  .ofRecord
    { listRoom := "!list:example.org", kind := .user, stateKey := "k", sender := "@mod:example.org",
      timestamp := 5,
      content := { entity := "@a:b", reason := "sorry", recommendation := some .unban } }

/-- A row of a kind that cannot be read. -/
def unreadableRow (kind : EntityKind) : PolicyRow :=
  { listRoom := "!list:example.org", kind := kind.name, stateKey := "j",
    sender := "@mod:example.org", timestamp := 5, content := "oops" }

theorem not_readable_unreadableRow (kind : EntityKind) : ¬(unreadableRow kind).Readable := by
  rintro ⟨c, hc⟩
  have hread : PolicyContent.decoder.ofText "oops" = .ok c := hc
  have hnone : (PolicyContent.decoder.ofText "oops").toOption = none := by decide +kernel
  rw [hread] at hnone
  cases hnone

theorem unbans_unbanRow : unbanRow.Unbans Context.small .user "@a:b" where
  watched := by simp [unbanRow, PolicyRow.ofRecord, Context.watched, Context.small]
  kind_eq := rfl
  content := ⟨_, PolicyContent.ofText_render _, rfl, .inl ⟨by decide, rfl⟩⟩

/-- A world with some rows in its table of rules. -/
def worldOf (rows : List PolicyRow) : World Unit :=
  { World.small with store := .database { policies := some rows } }

/-- The ban of the user that a command asks for. -/
def bansUser : Mutation :=
  { list := { roomId := "!list:example.org", shortcode := "bans", name := "Bans" }, kind := .user,
    entity := "@a:b", change := .ban .ban "spam" false }

theorem asked?_worldOf (rows : List PolicyRow) :
    asked? Context.small (.command (.small "!ban bans @a:b spam")) (worldOf rows) = some bansUser :=
  rfl

/-- A rule about rooms that cannot be read does not let a user be banned who was unbanned. -/
theorem blocked_iff_readable_rooms :
    let w := worldOf [unbanRow, unreadableRow .room]
    let after := take Context.small (.command (.small "!ban bans @a:b spam")) w
    after.1.isDone = false ∧ w.Still after.2 := by
  have hreadable : ∀ other ∈ [unbanRow, unreadableRow .room],
      other.kind = EntityKind.user.name → other.Readable := by
    simp only [List.forall_mem_cons]
    exact ⟨fun _ => ⟨_, PolicyContent.ofText_render _⟩,
      fun hkind => absurd hkind (by decide), nofun⟩
  exact ((blocked_iff_readable rfl rfl (asked?_worldOf _) rfl rfl List.mem_cons_self
    unbans_unbanRow).1 hreadable).2

/-- Where a rule about users cannot be read, a ban is published of a user who was unbanned. -/
theorem unban_passed_over :
    let w := worldOf [unbanRow, unreadableRow .user]
    let after := take Context.small (.command (.small "!ban bans @a:b spam")) w
    unbanRow.Unbans Context.small .user "@a:b" ∧
      ∃ p, p.content.recommendation = some .ban ∧
        after.2.publications = w.publications ++ [bansUser.effect p] := by
  have hnone := Store.find_of_unreadable (q := bansUser.query Context.small.watched)
    (d := { policies := some [unbanRow, unreadableRow .user] }) rfl
    ⟨unreadableRow .user, by simp, rfl, not_readable_unreadableRow .user⟩
  obtain ⟨p, hplan, hp⟩ := Mutation.plan_of_nothing rfl Context.small.watched hnone
  exact ⟨unbans_unbanRow, p, hp, (sent_of_planned (asked?_worldOf _) hplan).1⟩

end Session
end Moderation
