import Moderation.Url.Host
import Moderation.Url.Path
/-!
# URLs

A URL is read off a text: its scheme, after a double slash the authority, which is a user, a host
and a port, and then the path and the query; the fragment after them is never sent and is not kept.
In the URLs of a few **special** schemes a backslash is a slash, and there is always a host.  A path
that does not begin with a slash is a text of its own, and nothing can be added to it.
-/

namespace Moderation

/-- What stands where the path of a URL is. -/
inductive Url.Place where
  | path (segments : Url.Segments)
  | text (content : List Char)
  deriving DecidableEq, Repr

/-- A URL. -/
structure Url where
  scheme : String
  username : List Char := []
  password : List Char := []
  host : Option Host := none
  port : Option UInt16 := none
  place : Url.Place
  query : Option (List Char) := none
  deriving DecidableEq, Repr

namespace Url

/-- Whether the URLs of a scheme are special. -/
def isSpecial (scheme : String) : Bool :=
  ["http", "https", "ws", "wss", "ftp", "file"].contains scheme

/-- The port that goes without saying. -/
def defaultPort? (scheme : String) : Option UInt16 :=
  match scheme with
  | "http" => some 80
  | "ws" => some 80
  | "https" => some 443
  | "wss" => some 443
  | "ftp" => some 21
  | _ => none

/-- A text without what is dropped: control characters and spaces at its ends, tabs and ends of
lines anywhere. -/
def cleaned (cs : List Char) : List Char :=
  let atEnd (c : Char) : Bool := c.toNat ≤ 0x20
  ((cs.dropWhile atEnd).reverse.dropWhile atEnd).reverse.filter fun c => !isDropped c

/-- The characters of schemes. -/
def isSchemeChar (c : Char) : Bool := c.isAlphanum || c = '+' || c = '-' || c = '.'

/-- The scheme at the front of a text, in lower case, and what follows its colon. -/
def scheme? (cs : List Char) : Option (String × List Char) :=
  if cs.head?.any Char.isAlpha then
    match cs.dropWhile isSchemeChar with
    | ':' :: rest => some (String.ofList ((cs.takeWhile isSchemeChar).map Char.toLower), rest)
    | _ => none
  else none

/-- Whether a character is a slash in a URL. -/
def isSlash (special : Bool) (c : Char) : Bool := c = '/' || (special && c = '\\')

/-- Whether a character ends a path. -/
def endsPath (c : Char) : Bool := c = '?' || c = '#'

/-- Whether a character ends an authority. -/
def endsAuthority (special : Bool) (c : Char) : Bool := isSlash special c || endsPath c

/-- The name and the password of a user, and what follows the last at sign of the authority. -/
def userInfo (special : Bool) (cs : List Char) : Option (List Char) × List Char :=
  let authority := cs.takeWhile fun c => !endsAuthority special c
  if authority.contains '@' then
    let after := (authority.reverse.takeWhile (· ≠ '@')).length
    (some (authority.take (authority.length - after - 1)), cs.drop (authority.length - after))
  else (none, cs)

/-- A host at the front of a text, and what follows it.  A colon ends it outside of square
brackets. -/
def spanHost (special inBrackets : Bool) : List Char → List Char × List Char
  | [] => ([], [])
  | c :: rest =>
    if (c = ':' && !inBrackets) || endsAuthority special c then ([], c :: rest)
    else
      let (host, after) := spanHost special ((inBrackets || c = '[') && c ≠ ']') rest
      (c :: host, after)

/-- The port after a colon, and what follows it. -/
def readPort (cs : List Char) : Except UrlError (Option UInt16 × List Char) :=
  let digits := cs.takeWhile Char.isDigit
  let rest := cs.drop digits.length
  if !(rest.isEmpty || rest.head?.any (endsAuthority true)) then .error .port
  else if digits.isEmpty then .ok (none, rest)
  else match Address.decimal? UInt16.size digits with
    | some n => .ok (some (UInt16.ofNat n), rest)
    | none => .error .port

/-- The parts between the slashes of a text. -/
def partsOf (special : Bool) (cs : List Char) : List (List Char) :=
  Text.parts '/' (cs.map fun c => if isSlash special c then '/' else c)

/-- A URL with the path and the query at the end of a text.  Only the path of a special URL is never
empty. -/
def finish (u : Url) (cs : List Char) : Url :=
  let special := isSpecial u.scheme
  let path := cs.takeWhile fun c => !endsPath c
  let rest := cs.drop path.length
  let query := match rest with
    | '?' :: rest => some (rest.takeWhile (· ≠ '#'))
    | _ => none
  let segments := if path.isEmpty && !special then []
    else Segments.ofParts
      (partsOf special (if path.head?.any (isSlash special) then path.drop 1 else path))
  { u with
    place := .path segments
    query := query.map
      (Percent.encodeChars (if special then Percent.inSpecialQuery else Percent.inQuery)) }

/-- A URL with the authority and all that follows it. -/
def finishAuthority (u : Url) (cs : List Char) : Except UrlError Url := do
  let special := isSpecial u.scheme
  let (user, afterUser) := userInfo special cs
  let (name, afterHost) := spanHost special false afterUser
  if user = some [] && afterUser.head?.any (endsAuthority special) then throw UrlError.emptyHost
  if name.isEmpty && (special || afterHost.head? = some ':') then throw UrlError.emptyHost
  let host ←
    if name.isEmpty then pure none
    else (if special then Host.ofSpecial name else Host.ofOther name).map some
  let (port, afterPort) ← match afterHost with
    | ':' :: rest => readPort rest
    | rest => pure (none, rest)
  let user := user.getD []
  let encode := Percent.encodeChars Percent.inUserInfo
  let username := encode (user.takeWhile (· ≠ ':'))
  let password := encode ((user.dropWhile (· ≠ ':')).drop 1)
  if host.isNone && !(username.isEmpty && password.isEmpty) then throw UrlError.emptyHost
  let port := port.filter fun p => defaultPort? u.scheme ≠ some p
  return { u with username, password, host, port }.finish afterPort

/-- A URL of a file, which may be on another host. -/
def finishFile (u : Url) (cs : List Char) : Except UrlError Url := do
  let slash (c : Char) : Bool := isSlash true c
  if (cs.take 2).length = 2 && (cs.take 2).all slash then
    let rest := cs.drop 2
    let name := rest.takeWhile fun c => !endsAuthority true c
    if isDrive name then return u.finish rest
    else
      let host ← if name.isEmpty then pure none else (Host.ofSpecial name).map some
      return { u with host := host.filter (· ≠ Host.domain "localhost") }.finish
        (rest.drop name.length)
  else return u.finish cs

/-- A URL whose path is a text of its own. -/
def finishText (u : Url) (cs : List Char) : Url :=
  let text := cs.takeWhile fun c => !endsPath c
  { u.finish (cs.drop text.length) with
    place := .text (Percent.encodeChars Percent.inControls text) }

/-- Reads a URL. -/
def ofText (s : String) : Except UrlError Url :=
  match scheme? (cleaned s.toList) with
  | none => .error .relative
  | some (scheme, rest) =>
    let u : Url := { scheme, place := .path [] }
    if scheme = "file" then u.finishFile rest
    else if isSpecial scheme then u.finishAuthority (rest.dropWhile (isSlash true))
    else
      match rest with
      | '/' :: '/' :: rest => u.finishAuthority rest
      | '/' :: _ => .ok (u.finish rest)
      | _ => .ok (u.finishText rest)

/-- A URL with segments at the end of its path, after the empty one there is dropped; none if it has
no path. -/
def extend? (u : Url) (segments : List String) : Option Url :=
  match u.place with
  | .path path =>
    some { u with
      place := .path (segments.foldl (Segments.append (isSpecial u.scheme)) path.popEmpty) }
  | .text _ => none

/-- The path and the query of a URL, as they are sent. -/
def target (u : Url) : String :=
  let path := match u.place with
    | .path segments => segments.chars
    | .text text => text
  let query := match u.query with
    | some query => '?' :: query
    | none => []
  String.ofList (path ++ query)

end Url
end Moderation
