import Blert.Lifecycle.Actor
import Blert.Redis.Scripts

/-!
The store's operations as calls of the scripts: which keys and arguments each request makes.
-/

namespace Blert.Redis

open Blert.Lifecycle

/-- What the text of a key depends on beyond the program: the lower case of a string, and the
number of a challenge type on the wire. -/
structure KeyText where
  toLowercase : String → String
  typeNumber : ChallengeType → ℕ

/-- Replaces the hyphens and spaces of a name by underscores. -/
def underscored (name : String) : String :=
  String.ofList (name.toList.map fun c => if c = '-' ∨ c = ' ' then '_' else c)

variable (text : KeyText)

def normalizeRsn (name : String) : String := underscored (text.toLowercase name)

/-- Unique identity for a party running a particular challenge type. -/
def partyIdentifier (challengeType : ChallengeType) (party : List String) : String :=
  let names := (party.map (normalizeRsn text)).insertionSort (· ≤ ·)
  toString (text.typeNumber challengeType) ++ "-" ++ "-".intercalate names

def directoryKey (challengeType : ChallengeType) (party : List String) : RoutingKey :=
  .directory (partyIdentifier text challengeType party)

def playerKey (name : String) : RoutingKey := .player (normalizeRsn text name)

namespace Store

/-- The keys and arguments of a request to start a challenge. -/
def startArgs (identity : Identity) (deadline : Timestamp) (uuid : Uuid) (create : Create) :
    StartArgs :=
  { directory := directoryKey text create.challengeType create.party
    client := .client create.clientId
    session := create.sessionUuid
    players := create.party.map (playerKey text)
    uuid
    creator := identity
    deadline
    laterStages := create.stage.laterStages
    create := .create create
    join := .join (.ofCreate create)
    removal := .clientMovedOn { clientId := create.clientId } }

/-- Starts a challenge for the party of a request, or joins the one it has running. -/
def start (identity : Identity) (now deadline : Timestamp) (uuid : Uuid) (create : Create) :
    Store → StartReply × Store :=
  START (startArgs text identity deadline uuid create) now

/-- Queues a join unless the client is already in a different challenge. -/
def rejoin (now : Timestamp) (uuid : Uuid) (join : Join) : Store → RejoinReply × Store :=
  REJOIN now uuid (.client join.clientId) (.join join)

def send (now : Timestamp) (uuid : Uuid) (cmd : Command) : Store → Option MsgId × Store :=
  SEND now uuid cmd

def sendToCurrentChallenge (now : Timestamp) (client : ClientId) (cmd : Command) :
    Store → Option (Uuid × MsgId) × Store :=
  CLIENT_SEND now (.client client) cmd

/-- Publishes a snapshot of the challenge's state and its clients, as of an inbox position. -/
def project (uuid : Uuid) (epoch : Epoch) (state : ChallengeState) (cursor : MsgId) :
    Store → Bool × Store :=
  PROJECT uuid epoch (.updated state.uuid cursor) (Snapshot.of state cursor)
    (state.clients.entries.map fun (id, client) => PublishedClient.of id client)

/-- The routing keys of a challenge: of its party, the clients it recorded and its players. -/
def routes (state : ChallengeState) : Finset RoutingKey :=
  insert (directoryKey text state.challengeType state.party)
    (state.recordedBy.image .client ∪ (state.party.map (playerKey text)).toFinset)

/-- Deletes a challenge, whose final state is given. -/
def delete (uuid : Uuid) (epoch : Epoch) (state : ChallengeState) : Store → Bool × Store :=
  DELETE uuid epoch state.sessionUuid (routes text state)

end Store

end Blert.Redis
