import Blert.Socket.Handler
import Blert.Transitions

/-!
A socket server among its clients, the challenge server and the notifications it subscribes to.

A client's messages are handled one after another, while sockets close and notifications come in
between at any wait. The challenge server answers when it likes. A request that gets no response
is sent again.
-/

namespace Blert.Socket

def Suspended.Awaits : Suspended → Answer → Prop
  | _, .failed => True
  | .starting _ _ accepted, .accepted status => accepted = some status
  | .joining _ _ accepted, .accepted status => accepted = some status
  | .updating _ _, .accepted _ => True
  | .starting _ _ _, .rejected | .joining _ _ _, .rejected | .updating _ _, .rejected => True
  | .completing _ _ _, .done | .completing _ _ _, .rejected => True
  | .lookingUpStarter _ _, .username _ | .lookingUpPlayer _, .username _ => True
  | .checkingStageEnd _ _ _ _, .stageEnd _ => True
  | .checkingChallenge _ _, .challengeExists _ => True
  | .checkingProcessed _ entries, .processed flags => ∀ fs ∈ flags, fs.length = entries.length
  | .validatingIdentity _ _, .identity _ => True
  | .confirmingChallengeState _, .currentChallenge _ => True
  | .loadingHistory, .done | .writingStageEnd _ _, .done | .writingEvents, .done
  | .updatingStatus _, .done => True
  | _, _ => False

instance (s : Suspended) (a : Answer) : Decidable (s.Awaits a) := by
  unfold Suspended.Awaits
  split <;> infer_instance

/-- The challenge server lets a client start or join a challenge. A join is of the challenge that
was asked for. -/
def Suspended.accept (status : ChallengeStatusResponse) : Suspended → Option Suspended
  | .starting requestId body _ => some (.starting requestId body (some status))
  | .joining challengeId body _ =>
    if status.uuid = challengeId then some (.joining challengeId body (some status)) else none
  | _ => none

def Suspended.request : Suspended → Option Request
  | .starting _ body _ => some (.start body)
  | .joining challengeId body _ => some (.join challengeId body)
  | .completing challengeId body _ => some (.finish challengeId body)
  | .updating challengeId body => some (.update challengeId body)
  | _ => none

inductive Act
  /-- A client's message loop takes a message from its queue. -/
  | receive (c : ClientRef) (message : ServerMessage)
  /-- The wait of a client's handler ends. -/
  | resume (c : ClientRef) (answer : Answer)
  /-- A client's request is sent again. -/
  | resend (c : ClientRef)
  /-- The challenge server lets a client in. -/
  | accept (c : ClientRef) (status : ChallengeStatusResponse)
  /-- A client's socket closes or fails. -/
  | close (c : ClientRef)
  /-- A client misses too many heartbeats, after which its socket is being closed. -/
  | unresponsive (c : ClientRef)
  /-- A notification that a challenge has finished. -/
  | challengeFinish (challengeId : String)
  /-- Whether challenges can be started changes. -/
  | serverStatus (allowStartingChallenges : Bool)
  deriving DecidableEq

namespace World

def Enabled (w : World) : Act → Prop
  | .receive c _ => (w.client c).isOpen = true ∧ w.handler c = none
  | .resume c answer => ∃ s ∈ w.handler c, s.Awaits answer
  | .resend c => ((w.handler c).bind Suspended.request).isSome = true
  | .accept c status => ((w.handler c).bind (Suspended.accept status)).isSome = true
  | _ => True

instance (w : World) (act : Act) : Decidable (w.Enabled act) := by
  unfold Enabled
  split
  · infer_instance
  · rename_i c answer
    cases hs : w.handler c with
    | none => exact isFalse fun ⟨s, hmem, _⟩ => by cases hmem
    | some s =>
      exact decidable_of_iff (s.Awaits answer)
        ⟨fun h => ⟨s, rfl, h⟩, fun ⟨s', hmem, h⟩ => by cases hmem; exact h⟩
  all_goals infer_instance

def resumeHandler (w : World) (c : ClientRef) (answer : Answer) : World :=
  match w.handler c with
  | some s => w.resume c s answer
  | none => w

def resend (w : World) (c : ClientRef) : World :=
  match (w.handler c).bind Suspended.request with
  | some request => w.emit c (.request request)
  | none => w

/-- The challenge server lets a client in, which the client's handler does not yet know. -/
def accept (w : World) (c : ClientRef) (status : ChallengeStatusResponse) : World :=
  match (w.handler c).bind (Suspended.accept status) with
  | some s => { w.suspend c (some s) with log := w.log ++ [.accepted c status.uuid] }
  | none => w

def next (w : World) : Act → World
  | .receive c message => w.handleMessage c message
  | .resume c answer => w.resumeHandler c answer
  | .resend c => w.resend c
  | .accept c status => w.accept c status
  | .close c => w.cleanup c
  | .unresponsive c => w.updateClient c fun c => { c with isOpen := false }
  | .challengeFinish challengeId => w.handleChallengeFinish challengeId
  | .serverStatus allowStartingChallenges => { w with allowStartingChallenges }

end World

def server : TransitionSystem World Act where
  Enabled := World.Enabled
  next := World.next

instance (w : World) (act : Act) : Decidable (server.Enabled w act) :=
  inferInstanceAs (Decidable (w.Enabled act))

/-- A server that nothing has happened at yet. Its clients have connected and are known apart. -/
structure World.Initial (w : World) : Prop where
  client : ∀ c, (w.client c).isOpen = true ∧ (w.client c).validated = false ∧
    (w.client c).activeChallenge = none ∧ (w.client c).session.isSome = true
  session : ∀ c d, (w.client c).session = (w.client d).session → c = d
  handler : ∀ c, w.handler c = none
  clientsByChallenge : ∀ challengeId, w.clientsByChallenge challengeId = none
  log : w.log = []

end Blert.Socket
