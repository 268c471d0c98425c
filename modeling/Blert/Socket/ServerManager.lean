import Blert.Transitions

/-!
The manager of a socket server's status.

A shutdown is scheduled for a time, counted down to in messages to the clients, and ends with all
clients closed. A drain asks clients to leave and closes those that are left when its time has come.
Both share the shutdown time and the status, and go on in callbacks of timers, each of which runs
without a wait. A callback that finds the shutdown time missing throws.
-/

namespace Blert.Socket

inductive ServerStatus
  | running | shutdownPending | shutdownCanceled | shutdownImminent | draining | offline
  deriving DecidableEq

/-- What goes on when a timer fires, or when a wait is over. -/
inductive Callback
  | enterShutdownPending
  | shutdown
  /-- The end of a shutdown, two seconds after its time. -/
  | closeAllClients
  /-- The return to running, ten seconds after a cancellation. -/
  | becomeRunning
  | shutdownMessage
  | runDrain
  | drainTick
  /-- The rest of a drain, once all clients have been closed. -/
  | drainClosed
  deriving DecidableEq

structure Timer where
  id : ℕ
  due : ℤ
  callback : Callback
  deriving DecidableEq

structure DrainState where
  settleTimer : Option ℕ

/-- Clients were closed, at a time, while the times of some schedules had been announced. -/
structure Closing where
  time : ℤ
  announced : List ℤ
  deriving DecidableEq

structure ServerManager where
  now : ℤ := 0
  /-- The number of connected clients. -/
  clients : ℕ := 0
  status : ServerStatus := .running
  shutdownTime : Option ℤ := none
  /-- What the message handler has been told of the status. -/
  allowStartingChallenges : Bool := true
  shutdownTimer : Option ℕ := none
  shutdownMessageTimer : Option ℕ := none
  drain : Option DrainState := none
  timers : List Timer := []
  nextTimer : ℕ := 0
  /-- The status messages that were sent. -/
  messages : List (ServerStatus × Option ℤ) := []
  /-- The number of drains that have been completed. -/
  completed : ℕ := 0
  /-- A callback has thrown, as it found the shutdown time missing. -/
  thrown : Bool := false
  /-- The times of the schedules that have been neither cancelled nor replaced before they came. -/
  announced : List ℤ := []
  closings : List Closing := []

namespace ServerManager

/-- The default time to wait before shutting down the server. -/
def DEFAULT_SHUTDOWN_TIME : ℤ := 30 * 60 * 1000

/-- Durations prior to shutdown at which to send a shutdown message to clients. -/
def SHUTDOWN_MESSAGE_INTERVALS : List ℤ :=
  [60 * 60 * 1000, 30 * 60 * 1000, 15 * 60 * 1000, 5 * 60 * 1000, 1 * 60 * 1000]

def DEFAULT_DRAIN_GRACE_PERIOD_MS : ℤ := 45 * 60 * 1000

def DEFAULT_DRAIN_SETTLE_MS : ℤ := 30 * 1000

/-- How often the drain monitor checks whether all clients have left. -/
def DRAIN_TICK_MS : ℤ := 5 * 1000

def TIMEOUT_MAX : ℤ := 2147483647

variable (m : ServerManager)

/-! ### Timers -/

def timerDelay (delay : ℤ) : ℤ := if 1 ≤ delay ∧ delay ≤ TIMEOUT_MAX then delay else 1

/-- Sets a timer, whose handle is `m.nextTimer`. -/
def setTimeout (callback : Callback) (delay : ℤ) : ServerManager :=
  { m with
    timers := m.timers ++ [⟨m.nextTimer, m.now + timerDelay delay, callback⟩]
    nextTimer := m.nextTimer + 1 }

def clearTimeout (handle : Option ℕ) : ServerManager :=
  { m with timers := m.timers.filter fun t => some t.id ≠ handle }

/-! ### Status -/

/-- Whether the message handler lets clients start challenges under a new status. -/
def handleServerStatusUpdate (allowStartingChallenges : Bool) : ServerStatus → Bool
  | .shutdownPending | .draining => false
  | .shutdownCanceled => true
  | _ => allowStartingChallenges

def updateStatus (newStatus : ServerStatus) : ServerManager :=
  { m with
    status := newStatus
    allowStartingChallenges := handleServerStatusUpdate m.allowStartingChallenges newStatus }

/-- The current server status as clients are told. -/
def serverStatusMessage : Option (ServerStatus × Option ℤ) :=
  match m.status with
  | .shutdownPending | .draining => m.shutdownTime.map fun time => (m.status, some time)
  | status => some (status, none)

def notifyAllClientsOfState : Option ServerManager := do
  let statusMessage ← m.serverStatusMessage
  return { m with messages := m.messages ++ List.replicate m.clients statusMessage }

def hasPendingShutdown : Bool := m.shutdownTime.isSome

/-! ### Shutdown -/

def nextShutdownMessageInterval : Option ℤ := do
  let shutdownTime ← m.shutdownTime
  let timeUntilShutdown := shutdownTime - m.now
  return ((SHUTDOWN_MESSAGE_INTERVALS.map (· + 1000)).find? (timeUntilShutdown > ·)).getD 0

def scheduleNextShutdownMessage : Option ServerManager :=
  if m.status ≠ .shutdownPending then some { m with shutdownMessageTimer := none }
  else do
    let nextInterval ← m.nextShutdownMessageInterval
    if nextInterval = 0 then
      return { m with shutdownMessageTimer := none }
    let shutdownTime ← m.shutdownTime
    let messageTimeout := (shutdownTime - nextInterval) - m.now
    return { m.setTimeout .shutdownMessage messageTimeout with
      shutdownMessageTimer := some m.nextTimer }

def enterShutdownPending : Option ServerManager :=
  match m.shutdownTime with
  | none => some m
  | some shutdownTime =>
    let shutdownDuration := shutdownTime - m.now
    let m := { m.setTimeout .shutdown shutdownDuration with shutdownTimer := some m.nextTimer }
    (m.updateStatus .shutdownPending).scheduleNextShutdownMessage

/-- Announces a time, in place of those that have not come yet. -/
def announce (time : ℤ) : ServerManager :=
  { m with
    shutdownTime := some time
    announced := m.announced.filter (· ≤ m.now) ++ [time] }

def shutdownDuration (timeFromNow : Option ℤ) : ℤ := timeFromNow.getD DEFAULT_SHUTDOWN_TIME + 5000

/-- Schedules a server shutdown to occur after a certain amount of time. -/
def scheduleShutdown (timeFromNow : Option ℤ) (force : Bool) : Option ServerManager :=
  if m.hasPendingShutdown ∧ ¬force then some m
  else
    let shutdownDuration := shutdownDuration timeFromNow
    let m := m.announce (m.now + shutdownDuration)
    if shutdownDuration > 60 * 60 * 1000 then
      let timeBeforePending := shutdownDuration - 60 * 60 * 1000
      some { m.setTimeout .enterShutdownPending timeBeforePending with
        shutdownTimer := some m.nextTimer }
    else m.enterShutdownPending

def cancelShutdown : Option ServerManager :=
  if ¬m.hasPendingShutdown then some m
  else do
    let m := { m.clearTimeout m.shutdownTimer with shutdownTimer := none }
    let m := { m.clearTimeout m.shutdownMessageTimer with shutdownMessageTimer := none }
    let m := { m with shutdownTime := none, announced := [] }
    let m ← (m.updateStatus .shutdownCanceled).notifyAllClientsOfState
    return m.setTimeout .becomeRunning 10000

def shutdown : Option ServerManager := do
  let m ← (m.updateStatus .shutdownImminent).notifyAllClientsOfState
  return m.setTimeout .closeAllClients 2000

/-- Closes every connected client. They leave as their connections close. -/
def closeAllClients : ServerManager :=
  if m.clients = 0 then m else { m with closings := m.closings ++ [⟨m.now, m.announced⟩] }

/-! ### Drain -/

def drainDeadline (gracePeriod settleDelay : Option ℤ) : ℤ :=
  m.now + settleDelay.getD DEFAULT_DRAIN_SETTLE_MS +
    gracePeriod.getD DEFAULT_DRAIN_GRACE_PERIOD_MS

/-- Begins a cooperative drain of this instance to another. -/
def startDrain (gracePeriod settleDelay : Option ℤ) : ServerManager :=
  if m.drain.isSome ∨ m.status = .offline then m
  else
    -- A drain supersedes a pending timed shutdown.
    let m := { m.clearTimeout m.shutdownTimer with shutdownTimer := none }
    let m := { m.clearTimeout m.shutdownMessageTimer with shutdownMessageTimer := none }
    let m := m.announce (m.drainDeadline gracePeriod settleDelay)
    let m := { m.setTimeout .runDrain (settleDelay.getD DEFAULT_DRAIN_SETTLE_MS) with
      drain := some { settleTimer := some m.nextTimer } }
    m.updateStatus .draining

/-- Cancels an in-progress drain, returning the server to a running state. -/
def cancelDrain : Option ServerManager :=
  match m.drain with
  | none => some m
  | some drain => do
    let m := m.clearTimeout drain.settleTimer
    let m := { m with drain := none, shutdownTime := none, announced := [] }
    let m ← (m.updateStatus .shutdownCanceled).notifyAllClientsOfState
    return m.setTimeout .becomeRunning 10000

def hasDrained : Option Bool :=
  if m.clients = 0 then some true
  else m.shutdownTime.map (m.now ≥ ·)

def drainClosed : ServerManager :=
  { m.updateStatus .offline with completed := m.completed + 1 }

/-- Finishes the drain by force-closing any remaining clients. -/
def completeDrain : ServerManager :=
  let forceClosed := m.clients
  if forceClosed > 0 then
    let m := m.closeAllClients
    { m with
      timers := m.timers ++ [⟨m.nextTimer, m.now, .drainClosed⟩]
      nextTimer := m.nextTimer + 1 }
  else m.drainClosed

/-- One round of polling until all clients have left or the grace period has elapsed. -/
def drainTick : Option ServerManager :=
  match m.drain with
  | none => some m
  | some _ => do
    if ← m.hasDrained then
      return { m with drain := none }.completeDrain
    return m.setTimeout .drainTick DRAIN_TICK_MS

def runDrain : Option ServerManager :=
  match m.drain with
  | none => some m
  | some _ => do
    let m ← { m with drain := some { settleTimer := none } }.notifyAllClientsOfState
    m.drainTick

/-! ### Runs -/

def callback : Callback → Option ServerManager
  | .enterShutdownPending => m.enterShutdownPending
  | .shutdown => m.shutdown
  | .closeAllClients => some (m.closeAllClients.updateStatus .offline)
  | .becomeRunning => some (m.updateStatus .running)
  | .shutdownMessage => do (← m.notifyAllClientsOfState).scheduleNextShutdownMessage
  | .runDrain => m.runDrain
  | .drainTick => m.drainTick
  | .drainClosed => some m.drainClosed

/-- A client connects, and is told of a pending shutdown. -/
def handleNewClient : Option ServerManager :=
  let m := { m with clients := m.clients + 1 }
  if m.hasPendingShutdown then do
    let message ← m.serverStatusMessage
    return { m with messages := m.messages ++ [message] }
  else some m

/-- What can happen to a server: a call of an administrator, a timer that fires, clients that come
and leave, and time. -/
inductive Act
  | scheduleShutdown (timeFromNow : Option ℤ) (force : Bool)
  | cancelShutdown
  | startDrain (gracePeriod settleDelay : Option ℤ)
  | cancelDrain
  | fire (timer : Timer)
  | join
  | leave
  | elapse (ms : ℕ)

/-- What an action does, if it does not throw. -/
def act : Act → Option ServerManager
  | .scheduleShutdown timeFromNow force => m.scheduleShutdown timeFromNow force
  | .cancelShutdown => m.cancelShutdown
  | .startDrain gracePeriod settleDelay => some (m.startDrain gracePeriod settleDelay)
  | .cancelDrain => m.cancelDrain
  | .fire timer => { m with timers := m.timers.erase timer }.callback timer.callback
  | .join => m.handleNewClient
  | .leave => some { m with clients := m.clients - 1 }
  | .elapse ms => some { m with now := m.now + ms }

/-- A timer fires no earlier than it is due, and a server that has thrown is gone. -/
def Enabled : Act → Prop
  | .fire timer => m.thrown = false ∧ timer ∈ m.timers ∧ timer.due ≤ m.now
  | .leave => m.thrown = false ∧ 0 < m.clients
  | _ => m.thrown = false

def system : TransitionSystem ServerManager Act where
  Enabled := Enabled
  next m a := (m.act a).getD { m with thrown := true }

instance (a : Act) : Decidable (system.Enabled m a) := by
  cases a <;> (dsimp only [system, Enabled]; infer_instance)

end ServerManager

end Blert.Socket
