import Moderation.Glob
import Moderation.Inbound
import Moderation.Policy.Record
/-!
# Membership

The rooms that are looked after and who is in them.  Rooms and members are kept strictly increasing,
which is the order of their bytes, so that answers come in that order without repetition.  An update
first takes out those who left and then puts in those who joined.
-/

namespace Moderation

/-- A text put into strictly increasing texts, once. -/
def insertOrdered (x : String) : List String → List String
  | [] => [x]
  | y :: rest =>
    if x < y then x :: y :: rest
    else if x = y then y :: rest
    else y :: insertOrdered x rest

/-- A room with its name, which may be empty, and its members. -/
structure TrackedRoom where
  id : String
  name : String := ""
  members : List String := []
  deriving DecidableEq, Repr

/-- The rooms that are looked after, strictly increasing by their identifiers. -/
structure Membership where
  rooms : List TrackedRoom := []
  deriving DecidableEq, Repr

/-- Changes the room with an identifier, which is made if it is missing. -/
def changeRoom (id : String) (change : TrackedRoom → TrackedRoom) :
    List TrackedRoom → List TrackedRoom
  | [] => [change { id }]
  | r :: rest =>
    if id < r.id then change { id } :: r :: rest
    else if id = r.id then change r :: rest
    else r :: changeRoom id change rest

namespace TrackedRoom

/-- A room after an update. -/
def apply (u : MembershipUpdate) (r : TrackedRoom) : TrackedRoom :=
  { r with
    name := u.name.getD r.name
    members :=
      u.joined.foldl (fun members user => insertOrdered user members)
        (r.members.filter (· ∉ u.left)) }

/-- What a room is called: its name, or its identifier if it has none. -/
def title (r : TrackedRoom) : String := if r.name.isEmpty then r.id else r.name

end TrackedRoom

namespace Membership

/-- Rooms with nobody in them; of two with one identifier the later counts. -/
def ofRooms (rooms : List ProtectedRoom) : Membership :=
  ⟨rooms.foldl
    (fun tracked r => changeRoom r.roomId (fun t => { t with name := r.name }) tracked) []⟩

/-- Applies an update. -/
def apply (m : Membership) (u : MembershipUpdate) : Membership :=
  ⟨changeRoom u.roomId (TrackedRoom.apply u) m.rooms⟩

/-- The users in some rooms, or in all of them, that match a glob. -/
def findUsers (m : Membership) (g : Glob) (scope : Option (List String)) : List String :=
  ((m.rooms.filter fun r => scope.all (r.id ∈ ·)).flatMap
    fun r => r.members.filter (g.isMatch ·)).foldl
    (fun users user => insertOrdered user users) []

/-- The rooms that a user is in. -/
def roomsOf (m : Membership) (user : String) : List String :=
  (m.rooms.filter (user ∈ ·.members)).map (·.id)

/-- What some rooms are called. -/
def titles (m : Membership) (ids : List String) : List String :=
  ids.map fun id => ((m.rooms.find? (·.id = id)).map TrackedRoom.title).getD id

end Membership
end Moderation
