import Moderation.Homeserver.Client
import Moderation.Proofs.Homeserver.Answers
import Moderation.Proofs.Url.Path
/-!
# Where requests go

What is asked of a homeserver goes to a path that ends with segments that name what it is about
(`Effect.segments?`).  The texts in them come from anywhere, so the question is whether the path
still says them.  It does exactly if each of them can be a segment as it is, and the path of the
homeserver is not two slashes, of which both are taken for an empty end
(`HomeserverClient.paths_faithful_iff`).
-/

namespace Moderation

/-- The segments that name what is asked, after those that every path begins with.  A message goes
under an identifier that is made up for it. -/
def Effect.segments? : Effect → Option (List String)
  | .publish listRoom kind stateKey _ =>
    some ["v3", "rooms", listRoom, "state", kind.eventType, stateKey]
  | .kick room _ _ => some ["v3", "rooms", room, "kick"]
  | .join room => some ["v3", "join", room]
  | .leave room => some ["v3", "rooms", room, "leave"]
  | .resolveAlias name => some ["v3", "directory", "room", name]
  | .redact room user _ =>
    some ["unstable", "org.matrix.msc4194", "rooms", room, "redact", "user", user]
  | .eventSender room event => some ["v3", "rooms", room, "event", event]
  | _ => none

/-- The texts among them that come from elsewhere. -/
def Effect.pathTexts : Effect → List String
  | .publish listRoom _ stateKey _ => [listRoom, stateKey]
  | .kick room _ _ => [room]
  | .join room => [room]
  | .leave room => [room]
  | .resolveAlias name => [name]
  | .redact room user _ => [room, user]
  | .eventSender room event => [room, event]
  | _ => []

theorem EntityKind.eventType_injective : Function.Injective EntityKind.eventType := by
  intro kind kind'
  cases kind <;> cases kind' <;> decide

/-- The segments of a call are plain if the texts in them are. -/
theorem Effect.plain_segments_iff {effect : Effect} {segments : List String}
    (h : effect.segments? = some segments) :
    (∀ s ∈ segments, Url.isPlain s = true) ↔ ∀ s ∈ effect.pathTexts, Url.isPlain s = true := by
  have hkind : ∀ kind : EntityKind, Url.isPlain kind.eventType = true := by
    intro kind
    cases kind <;> decide
  have hfixed : ∀ s ∈ ["v3", "rooms", "state", "kick", "join", "leave", "directory", "room",
      "unstable", "org.matrix.msc4194", "redact", "user", "event"], Url.isPlain s = true := by
    decide
  cases effect with
  | notice | react => cases h
  | _ =>
    obtain rfl := Option.some.inj h
    simp_all [pathTexts]

/-- A network that keeps the requests that it carries. -/
def Network.recorded {σ : Type} (network : Network σ) : Network (σ × List HttpRequest) where
  send request := fun (s, sent) =>
    let (answer, s) := network.send request s
    (answer, s, sent ++ [request])
  freshId := fun (s, sent) =>
    let (id, s) := network.freshId s
    (id, s, sent)

/-- A network that carries nothing. -/
def Network.down : Network Unit where
  send _ := pure (.error "no route")
  freshId := pure "id"

namespace HomeserverClient

variable {σ : Type} {client : HomeserverClient} {network : Network σ} {s : σ} {effect : Effect}
  {segments : List String}

/-- The requests that a client makes when something is asked of the homeserver. -/
def requests (client : HomeserverClient) (network : Network σ) (s : σ) (effect : Effect) :
    List HttpRequest :=
  ((client.homeserver network.recorded).ask effect (s, [])).2.2

theorem call_recorded {α : Type} {method : HttpMethod} {body : Option Json}
    {read : String → Option α} {url : Url} (h : client.endpoint? segments = some url)
    (s : σ) (sent : List HttpRequest) :
    (client.call network.recorded method segments body read (s, sent)).2.2 =
      sent ++ [{ method, url, token := client.token, body }] := by
  rw [call, h]
  simp only [bind, StateT.bind, Network.recorded]
  rcases network.send { method, url, token := client.token, body } s with ⟨_ | _, _⟩ <;> rfl

/-- What is asked is asked with one request, for the segments that name it. -/
theorem requests_eq {url : Url} (hs : effect.segments? = some segments)
    (hu : client.endpoint? segments = some url) (network : Network σ) (s : σ) :
    ∃ request, client.requests network s effect = [request] ∧ request.url = url := by
  cases effect with
  | notice | react => cases hs
  | _ =>
    obtain rfl := Option.some.inj hs
    exact ⟨_, call_recorded hu s [], rfl⟩

/-- The segments of a path without an empty one at their end. -/
def withoutLastEmpty (path : List (List Char)) : List (List Char) :=
  if path.getLast? = some [] then path.dropLast else path

/-- What segments are put behind: the path without an empty one at its end, and without both of two
that are all there is. -/
theorem bare_popEmpty (path : Url.Segments) :
    path.popEmpty.bare = if path = [[], []] then [] else withoutLastEmpty path := by
  by_cases hlast : path.getLast? = some []
  · obtain ⟨front, rfl⟩ := List.getLast?_eq_some_iff.1 hlast
    rcases front with _ | ⟨first, _ | ⟨second, rest⟩⟩
    · rfl
    · cases first <;> rfl
    · have hpop : Url.Segments.popEmpty (first :: second :: rest ++ [[]]) =
          first :: second :: rest := by
        rw [Url.Segments.popEmpty, if_pos (by simpa using hlast), List.dropLast_concat]
      rw [hpop, withoutLastEmpty, if_pos hlast, List.dropLast_concat]
      simp [Url.Segments.bare]
  · have hpath : path ≠ [[]] ∧ path ≠ [[], []] := by
      constructor <;> rintro rfl <;> exact hlast rfl
    rw [Url.Segments.popEmpty, if_neg (by simp [hlast]), Url.Segments.bare, if_neg hpath.1,
      if_neg hpath.2, withoutLastEmpty, if_neg hlast]

/-- What every path begins with is put behind a path as it is. -/
theorem foldl_rootSegments (special : Bool) (path : Url.Segments) :
    rootSegments.foldl (.append special) path = path.bare ++
      rootSegments.map fun s => Percent.encodeChars (Percent.inSegment special) s.toList := by
  have hplain : Url.isPlain "_matrix" = true ∧ Url.isPlain "client" = true := by decide
  have hfirst : Percent.encodeChars (Percent.inSegment special) "_matrix".toList ≠ [] := by
    cases special <;> decide
  rw [rootSegments, List.foldl_cons, List.foldl_cons, List.foldl_nil,
    Url.Segments.append_of_plain hplain.1, Url.Segments.append_of_plain hplain.2,
    Url.Segments.bare_concat hfirst, List.append_assoc]
  rfl

theorem decoded_rootSegments (special : Bool) (path : Url.Segments) :
    (rootSegments.foldl (.append special) path).map Percent.decode? =
      path.bare.map Percent.decode? ++ rootSegments.map some := by
  rw [foldl_rootSegments, List.map_append, List.map_map]
  congr 1
  refine List.map_congr_left fun s _ => ?_
  rw [Function.comp_apply, Url.Segments.decode?_encoded, String.ofList_toList]

/-- What is asked goes to the path whose segments are those of the call behind those that every path
begins with. -/
theorem requests_path {path : Url.Segments} (hpath : client.base.place = .path path)
    (hfree : path.SlashFree) (hs : effect.segments? = some segments) (network : Network σ) (s : σ) :
    ∃ request, client.requests network s effect = [request] ∧
      request.url.pathParts =
        segments.foldl (.append (Url.isSpecial client.base.scheme))
          (rootSegments.foldl (.append (Url.isSpecial client.base.scheme)) path.popEmpty) := by
  have hendpoint : client.endpoint? segments = some { client.base with
      place := .path (segments.foldl (.append (Url.isSpecial client.base.scheme))
        (rootSegments.foldl (.append (Url.isSpecial client.base.scheme)) path.popEmpty)) } := by
    simp only [endpoint?, Url.extend?, hpath, List.foldl_append]
  obtain ⟨request, hrequest, hurl⟩ := requests_eq hs hendpoint network s
  refine ⟨request, hrequest, ?_⟩
  rw [hurl]
  exact Url.pathParts_of_segments rfl ((hfree.popEmpty.foldl_append _ _).foldl_append _ _)

/-- Publications whose texts can be segments go to one place only if they are about the same. -/
theorem eq_of_publishSegments {front : Url.Segments} (htwo : 2 ≤ front.length)
    {listRoom listRoom' stateKey stateKey' : String} {kind kind' : EntityKind}
    (hplain : ∀ text ∈ [listRoom, listRoom', stateKey, stateKey'], Url.isPlain text = true)
    (heq : (publishSegments listRoom kind stateKey).foldl (.append true) front =
      (publishSegments listRoom' kind' stateKey').foldl (.append true) front) :
    listRoom = listRoom' ∧ kind = kind' ∧ stateKey = stateKey' := by
  obtain ⟨hroom, hroom', hkey, hkey'⟩ : Url.isPlain listRoom = true ∧
      Url.isPlain listRoom' = true ∧ Url.isPlain stateKey = true ∧
      Url.isPlain stateKey' = true := by
    simpa using hplain
  have hspelled : ∀ room kind key, Url.isPlain room = true → Url.isPlain key = true →
      ((publishSegments room kind key).foldl (.append true) front).map Percent.decode? =
        front.map Percent.decode? ++ (publishSegments room kind key).map some := by
    intro room kind key hroom hkey
    refine (Url.Segments.map_foldl_append_iff true htwo _).2 ?_
    have hcall : (Effect.publish room kind key {}).segments? =
        some (publishSegments room kind key) := rfl
    refine (Effect.plain_segments_iff hcall).2 ?_
    simpa [Effect.pathTexts] using ⟨hroom, hkey⟩
  have hsegments := hspelled listRoom kind stateKey hroom hkey
  rw [heq, hspelled listRoom' kind' stateKey' hroom' hkey', List.append_cancel_left_eq] at hsegments
  have hsame := List.map_injective_iff.2 (fun _ _ => Option.some.inj) hsegments
  simpa [publishSegments, EntityKind.eventType_injective.eq_iff, eq_comm] using hsame

/-- The segments that those of a call are put behind, for a homeserver with a special URL. -/
theorem exists_front {config : HomeserverConfig} (hclient : ofConfig config = .ok client)
    (hspecial : Url.isSpecial client.base.scheme = true) (network : Network σ) :
    ∃ front : Url.Segments, 2 ≤ front.length ∧
      front.map Percent.decode? =
        (if client.base.pathParts = [[], []] then []
          else withoutLastEmpty client.base.pathParts).map Percent.decode? ++
            rootSegments.map some ∧
      ∀ s effect segments, Effect.segments? effect = some segments →
        ∃ request, client.requests network s effect = [request] ∧
          request.url.pathParts = segments.foldl (.append true) front := by
  obtain ⟨path, hpath, hfree⟩ : ∃ path, client.base.place = .path path ∧ path.SlashFree := by
    rw [ofConfig] at hclient
    cases hread : Url.ofText config.url with
    | error e =>
      rw [hread] at hclient
      cases hclient
    | ok base =>
      rw [hread] at hclient
      obtain rfl := Except.ok.inj hclient
      obtain ⟨path, hpath, -, hfree⟩ := Url.segments_of_ofText hread hspecial
      exact ⟨path, hpath, hfree⟩
  have hroot := decoded_rootSegments true path.popEmpty
  refine ⟨rootSegments.foldl (.append true) path.popEmpty, ?_, ?_, ?_⟩
  · have hlength := congrArg List.length hroot
    rw [List.length_map, List.length_append, List.length_map] at hlength
    rw [hlength]
    exact Nat.le_add_left 2 _
  · rw [hroot, bare_popEmpty, Url.pathParts_of_segments hpath hfree]
  · intro s effect segments hs
    rw [← hspecial]
    exact requests_path hpath hfree hs network s

/-- **The path of a request is that of the homeserver, what every path begins with, and the segments
that name what is asked, exactly if each text among them can be a segment as it is and the path of
the homeserver is not two slashes.**  So publications whose texts can be segments go to one place
only if it is the same list, kind and state key that they are about. -/
theorem paths_faithful_iff {config : HomeserverConfig} (hclient : ofConfig config = .ok client)
    (hscheme : client.base.scheme = "http" ∨ client.base.scheme = "https") (network : Network σ) :
    (∀ s effect segments, Effect.segments? effect = some segments →
      ∃ request, client.requests network s effect = [request] ∧
        (request.url.pathParts.map Percent.decode? =
            (withoutLastEmpty client.base.pathParts).map Percent.decode? ++
              (rootSegments ++ segments).map some ↔
          client.base.pathParts ≠ [[], []] ∧
            ∀ text ∈ effect.pathTexts, Url.isPlain text = true)) ∧
    ∀ s s' listRoom listRoom' kind kind' stateKey stateKey' content content',
      (∀ text ∈ [listRoom, listRoom', stateKey, stateKey'], Url.isPlain text = true) →
      (client.requests network s (.publish listRoom kind stateKey content)).map
          (fun request => request.url.pathParts) =
        (client.requests network s' (.publish listRoom' kind' stateKey' content')).map
          (fun request => request.url.pathParts) →
      listRoom = listRoom' ∧ kind = kind' ∧ stateKey = stateKey' := by
  have hspecial : Url.isSpecial client.base.scheme = true := by
    rcases hscheme with h | h <;> rw [h] <;> rfl
  obtain ⟨front, htwo, hfront, hrequests⟩ := exists_front hclient hspecial network
  constructor
  · intro s effect segments hs
    obtain ⟨request, hrequest, hparts⟩ := hrequests s effect segments hs
    refine ⟨request, hrequest, ?_⟩
    rw [hparts, ← Effect.plain_segments_iff hs]
    by_cases hbase : client.base.pathParts = [[], []]
    · -- One of the two empty segments should be kept, and none is.
      rw [hbase, if_pos rfl] at hfront
      have hshort := (Url.Segments.length_foldl_append true htwo segments).2
      have hlength := congrArg List.length hfront
      refine iff_of_false (fun heq => ?_) fun h => h.1 hbase
      have hcount := congrArg List.length heq
      rw [hbase] at hcount
      simp [withoutLastEmpty, rootSegments] at hlength hcount
      omega
    · rw [if_neg hbase] at hfront
      rw [List.map_append, ← List.append_assoc, ← hfront,
        Url.Segments.map_foldl_append_iff true htwo]
      exact (and_iff_right hbase).symm
  · intro s s' listRoom listRoom' kind kind' stateKey stateKey' content content' hplain hsame
    obtain ⟨request, hrequest, hparts⟩ :=
      hrequests s (.publish listRoom kind stateKey content) _ rfl
    obtain ⟨request', hrequest', hparts'⟩ :=
      hrequests s' (.publish listRoom' kind' stateKey' content') _ rfl
    rw [hrequest, hrequest', List.map_singleton, List.map_singleton, hparts, hparts'] at hsame
    exact eq_of_publishSegments htwo hplain (List.cons.inj hsame).1

/-- A homeserver whose URL has a path. -/
def prefixed : HomeserverClient where
  base := {
    scheme := "https"
    host := some (.domain "h.org")
    place := .path [['b', 'a', 's', 'e'], []] }
  token := "t"
  managementRoom := "!m:h.org"

/-- A policy whose state key has a slash in it goes where its state key says. -/
theorem paths_faithful_iff_slash :
    ofConfig ⟨"https://h.org/base/", "@b:h.org", "t", "!m:h.org"⟩ = .ok prefixed ∧
      ∃ request, prefixed.requests .down () (.publish "!l:h.org" .user "a/b" {}) = [request] ∧
        request.url.pathParts.map Percent.decode? =
          ["base", "_matrix", "client", "v3", "rooms", "!l:h.org", "state", "m.policy.rule.user",
            "a/b"].map some := by
  have hread : Url.ofText "https://h.org/base/" = .ok prefixed.base := by decide +kernel
  have hclient : ofConfig ⟨"https://h.org/base/", "@b:h.org", "t", "!m:h.org"⟩ = .ok prefixed := by
    rw [ofConfig, hread]
    rfl
  refine ⟨hclient, ?_⟩
  obtain ⟨request, hrequest, hpath⟩ := (paths_faithful_iff hclient (.inr rfl) .down).1 ()
    (.publish "!l:h.org" .user "a/b" {}) _ rfl
  refine ⟨request, hrequest, (hpath.2 ⟨by decide, by decide⟩).trans ?_⟩
  decide +kernel

/-- Policies with different state keys go to one place if the keys are a dot and two, or differ in a
tab. -/
theorem dots_share_a_path :
    ofConfig ⟨"https://h.org/base/", "@b:h.org", "t", "!m:h.org"⟩ = .ok prefixed ∧
      (prefixed.requests .down () (.publish "!l:h.org" .user "." {})).map HttpRequest.url =
        (prefixed.requests .down () (.publish "!l:h.org" .user ".." {})).map HttpRequest.url ∧
      (prefixed.requests .down () (.publish "!l:h.org" .user "a\tb" {})).map HttpRequest.url =
        (prefixed.requests .down () (.publish "!l:h.org" .user "ab" {})).map HttpRequest.url := by
  have hread : Url.ofText "https://h.org/base/" = .ok prefixed.base := by decide +kernel
  refine ⟨?_, by decide +kernel, by decide +kernel⟩
  rw [ofConfig, hread]
  rfl

end HomeserverClient
end Moderation
