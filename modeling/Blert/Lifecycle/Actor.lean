import Blert.EventSourcing
import Blert.Lifecycle.Apply

/-!
The actor that runs one challenge: it answers each input by a batch of journal entries and
applies the batch to its state. An actor that takes a challenge over folds the journal first.
-/

namespace Blert.Lifecycle

/-- Whether a command is sent to the inbox, and not made up by the actor itself. -/
def Command.isMessage : Command → Bool
  | .processed _ | .deadlineFired _ => false
  | _ => true

def Command.isCreate : Command → Bool
  | .create _ => true
  | _ => false

/-- What an actor handles, at a time of its clock: a message from the inbox, a deadline of its
own, or the report of a processing run. -/
inductive Input
  | message (time : Timestamp) (envelope : Envelope) (isMessage : envelope.cmd.isMessage)
  | deadline (time : Timestamp) (fired : Deadline)
  | report (time : Timestamp) (report : Processed)

namespace Input

def time : Input → Timestamp
  | .message t _ _ | .deadline t _ | .report t _ => t

def cause : Input → Cause
  | .message _ envelope _ => .command envelope.id
  | .deadline _ fired => .deadline fired.kind
  | .report _ processed => .processing processed.trigger

def cmd : Input → Command
  | .message _ envelope _ => envelope.cmd
  | .deadline _ fired => .deadlineFired fired
  | .report _ processed => .processed processed

def isCreate (input : Input) : Bool := input.cmd.isCreate

/-- The position of an input in the inbox, if it came from there. -/
def position : Input → Option MsgId
  | .message _ envelope _ => some envelope.id
  | _ => none

end Input

/-- A challenge's state in memory, and the position of its next journal entry. -/
structure Actor where
  state : ChallengeState
  nextSeq : JournalSeq

/-- Numbers events from `seq` on and makes them into entries. -/
def stamp (seq : JournalSeq) (time : Timestamp) (cause : Cause) :
    List LifecycleEvent → List JournalEntry
  | [] => []
  | event :: events =>
    { seq, time, causedBy := cause, event } :: stamp (seq + 1) time cause events

namespace Actor

def new (uuid : Uuid) (config : LifecycleConfig) : Actor :=
  { state := .initial uuid config.processing, nextSeq := 0 }

def batch (config : LifecycleConfig) (actor : Actor) (input : Input) : List JournalEntry :=
  stamp actor.nextSeq input.time input.cause (decide actor.state config input.cmd)

/-- Processes an input: its batch is journaled, then applied. -/
def handleCommand (config : LifecycleConfig) (actor : Actor) (input : Input) : Actor :=
  let batch := actor.batch config input
  { state := batch.foldl apply actor.state, nextSeq := actor.nextSeq + batch.length }

/-- Takes in a journal entry that is already stored. -/
def loadEntry (actor : Actor) (entry : JournalEntry) : Actor :=
  { state := apply actor.state entry, nextSeq := entry.seq + 1 }

/-- The actor that takes over a challenge with a stored journal. -/
def load (uuid : Uuid) (config : LifecycleConfig) (journal : List JournalEntry) : Actor :=
  journal.foldl loadEntry (new uuid config)

end Actor

def machine (config : LifecycleConfig) : Machine Actor Input JournalEntry where
  decide := Actor.batch config
  apply := Actor.loadEntry

/-! ### Entries of a batch -/

@[simp] lemma stamp_nil (seq : JournalSeq) (t : Timestamp) (c : Cause) : stamp seq t c [] = [] :=
  rfl
@[simp] lemma stamp_cons (seq : JournalSeq) (t : Timestamp) (c : Cause) (e : LifecycleEvent)
    (es : List LifecycleEvent) :
    stamp seq t c (e :: es) = { seq, time := t, causedBy := c, event := e } ::
      stamp (seq + 1) t c es := rfl

@[simp] lemma length_stamp (seq : JournalSeq) (t : Timestamp) (c : Cause)
    (es : List LifecycleEvent) : (stamp seq t c es).length = es.length := by
  induction es generalizing seq with
  | nil => rfl
  | cons e es ih => simp [ih]

@[simp] lemma stamp_eq_nil {seq : JournalSeq} {t : Timestamp} {c : Cause}
    {es : List LifecycleEvent} : stamp seq t c es = [] ↔ es = [] := by
  cases es <;> simp

lemma causedBy_of_mem_stamp {seq : JournalSeq} {t : Timestamp} {c : Cause}
    {es : List LifecycleEvent} {e : JournalEntry} (h : e ∈ stamp seq t c es) :
    e.causedBy = c := by
  induction es generalizing seq with
  | nil => cases h
  | cons a es ih =>
    rcases List.mem_cons.mp h with rfl | h
    · rfl
    · exact ih h

lemma event_of_mem_stamp {seq : JournalSeq} {t : Timestamp} {c : Cause}
    {es : List LifecycleEvent} {e : JournalEntry} (h : e ∈ stamp seq t c es) :
    e.event ∈ es := by
  induction es generalizing seq with
  | nil => cases h
  | cons a es ih =>
    rcases List.mem_cons.mp h with rfl | h
    · exact List.mem_cons_self
    · exact List.mem_cons_of_mem _ (ih h)

lemma fold_stamp (config : LifecycleConfig) (a : Actor) (t : Timestamp) (c : Cause)
    (es : List LifecycleEvent) :
    (machine config).fold a (stamp a.nextSeq t c es) =
      { state := (stamp a.nextSeq t c es).foldl apply a.state
        nextSeq := a.nextSeq + es.length } := by
  induction es generalizing a with
  | nil => rfl
  | cons e es ih =>
    have h := ih (Actor.loadEntry a { seq := a.nextSeq, time := t, causedBy := c, event := e })
    simp only [Actor.loadEntry] at h
    rw [stamp_cons, Machine.fold_cons, List.foldl_cons, List.length_cons]
    refine h.trans ?_
    rw [Nat.add_right_comm, Nat.add_assoc]

lemma step_eq_handleCommand (config : LifecycleConfig) (a : Actor) (i : Input) :
    (machine config).step a i = a.handleCommand config i := by
  have h := fold_stamp config a i.time i.cause (decide a.state config i.cmd)
  simpa [Machine.step, machine, Actor.handleCommand, Actor.batch] using h

lemma run_eq_handleCommand (config : LifecycleConfig) (a : Actor) (is : List Input) :
    (machine config).run a is = is.foldl (Actor.handleCommand config) a := by
  induction is generalizing a with
  | nil => rfl
  | cons i is ih => rw [Machine.run_cons, ih, step_eq_handleCommand]; rfl

lemma load_eq_fold (uuid : Uuid) (config : LifecycleConfig) (js : List JournalEntry) :
    Actor.load uuid config js = (machine config).fold (Actor.new uuid config) js := rfl

/-! ### A sample run

One client starts a challenge in the Maiden room, reports it started, then reports the next
room completed, and finishes. -/

def soloConfig : LifecycleConfig where
  stageEndTimeout := 10
  challengeEndGrace := 10
  reconnectionWindow := 10
  inactivityTimeout := 10
  processing :=
    { maxAttempts := 2, runTimeout := 10, retryBackoff := 10, finishMaxAttempts := 2,
      finishRetryBackoff := 10 }

/-- The `n`-th message of the inbox, handled at time `n`. -/
def solo (n : ℕ) (cmd : Command) (h : cmd.isMessage := by rfl) : Input :=
  .message n { id := toLex (n, 0), cmd } h

def soloCreate : Input := solo 1 (.create soloRequest)

def soloReport (n : ℕ) (stage : Stage) (status : StageStatus) : Input :=
  solo n <| .update
    { userId := 1, clientId := 1, sessionToken := "t", mode := none,
      stage := some { stage, status }, party := none }

def soloFinish (n : ℕ) : Input :=
  solo n <| .finish
    { userId := 1, clientId := 1, sessionToken := "t", times := none, soft := false }

def soloRun : List Input :=
  [soloCreate, soloReport 2 Stage.tobMaiden .started, soloReport 3 Stage.tobBloat .completed,
   soloFinish 4]

/-- The client finishes at once, and the pipeline processes what it was given up to then. -/
def soloProcessed : List Input :=
  [soloCreate, soloFinish 2, .deadline 3 ⟨.processingDue, 1⟩, .report 4 ⟨0, 1, .ok .none⟩,
   .deadline 5 ⟨.processingDue, 4⟩, .report 6 ⟨1, 1, .ok .none⟩]

end Blert.Lifecycle
