import Moderation.Homeserver.Client
import Moderation.Moderator.Setup
import Moderation.Network.Address
/-!
# Starting the service

The service starts from a configuration in four steps, and the first that fails ends it: the address
to listen at is read, then the URL of the homeserver, the moderator is set up, and the address is
taken.
-/

namespace Moderation

/-- Why an address cannot be taken. -/
inductive BindFault where
  | inUse
  | notLocal
  | unsupported
  deriving DecidableEq, Repr

/-- The text of a fault. -/
def BindFault.message : BindFault → String
  | .inUse => "Address already in use (os error 98)"
  | .notLocal => "Cannot assign requested address (os error 99)"
  | .unsupported => "Operation not supported (os error 95)"

/-- Why the service cannot start. -/
inductive StartError where
  | listenAddress
  | url (e : UrlError)
  | setup (e : SetupError)
  | bind (fault : BindFault)
  deriving DecidableEq, Repr

/-- The text of an error. -/
def StartError.message : StartError → String
  | .listenAddress => "invalid listen_addr: " ++ SocketAddress.syntaxText
  | .url e => HomeserverClient.invalidUrlText e
  | .setup e => e.message
  | .bind fault => "bind failed: " ++ fault.message

namespace Service

variable {σ : Type}

/-- Starts the service on what is on disk, with a network in some state and a way to take an
address.  The answer is the client it talks to the homeserver with, and its world. -/
def start (c : Config) (disk : Disk) (network : σ) (bind : SocketAddress → Except BindFault Unit) :
    Except StartError (HomeserverClient × World σ) := do
  let some address := SocketAddress.ofText? c.server.listenAddress | throw .listenAddress
  let client ← (HomeserverClient.ofConfig c.homeserver).mapError .url
  let world ← (World.start c disk network).mapError .setup
  (bind address).mapError .bind
  return (client, world)

end Service
end Moderation
