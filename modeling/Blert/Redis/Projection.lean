import Blert.Decimals
import Blert.Redis.Scripts

/-!
A projected snapshot as the fields of a hash.

The projector writes the fields of a snapshot into the hash of its challenge, which keeps what it
held before, and the attempt of a stage is written only if there is one. A reader parses the fields
back. The numbers of challenge types and modes on the wire are generated from elsewhere, and
parameters here, as is the text that a JSON parser has for its errors.
-/

namespace Blert.Redis

open Blert.Lifecycle Blert.Decimals

/-! ### Texts of values -/

structure SnapshotText where
  typeNumber : ChallengeType → ℕ
  modeNumber : ChallengeMode → ℕ
  /-- What a JSON parser says of a text that is no status. -/
  statusError : String → String
  signal : ChallengeSignal → String
  client : PublishedClient → String
  typeNumber_injective : Function.Injective typeNumber
  modeNumber_injective : Function.Injective modeNumber
  typeNumber_lt : ∀ type, typeNumber type < 2 ^ 31
  modeNumber_lt : ∀ mode, modeNumber mode < 2 ^ 31

namespace SnapshotText

variable (text : SnapshotText)

/-- What is said of a number that names no value of an enumeration. -/
def unknownEnumValue (n : ℤ) : String := "unknown enumeration value " ++ toString n

def typeTryFrom (n : ℤ) : Except String ChallengeType :=
  match [ChallengeType.unknownChallenge, .tob, .cox, .toa, .colosseum, .inferno, .mokhaiotl].find?
      fun type => (text.typeNumber type : ℤ) = n with
  | some type => .ok type
  | none => .error (unknownEnumValue n)

def modeTryFrom (n : ℤ) : Except String ChallengeMode :=
  match [ChallengeMode.noMode, .tobEntry, .tobRegular, .tobHard, .coxRegular, .coxChallenge,
      .toaEntry, .toaNormal, .toaExpert].find? fun mode => (text.modeNumber mode : ℤ) = n with
  | some mode => .ok mode
  | none => .error (unknownEnumValue n)

end SnapshotText

def stageTryFrom (n : ℤ) : Except String Stage :=
  match n with
  | .ofNat value =>
    match Stage.tryFrom value with
    | some stage => .ok stage
    | none => .error (SnapshotText.unknownEnumValue n)
  | .negSucc _ => .error (SnapshotText.unknownEnumValue n)

def statusNumber : ChallengeStatus → ℕ
  | .inProgress => 0
  | .completed => 1
  | .reset => 2
  | .wiped => 3
  | .abandoned => 4

/-- The status that a JSON text has as its number, which has no leading zeros. -/
def statusFromJson (json : String) : Option ChallengeStatus :=
  let isSpace := fun c : Char => c = ' ' || c = '\n' || c = '\t' || c = '\r'
  match ((json.toList.dropWhile isSpace).reverse.dropWhile isSpace).reverse with
  | ['0'] => some .inProgress
  | ['1'] => some .completed
  | ['2'] => some .reset
  | ['3'] => some .wiped
  | ['4'] => some .abandoned
  | _ => none

def phaseTag : ChallengePhase → String
  | .active => "ACTIVE"
  | .finishing => "FINISHING"
  | .terminated => "TERMINATED"

def phaseFromTag (tag : String) : Option ChallengePhase :=
  [ChallengePhase.active, .finishing, .terminated].find? fun phase => phaseTag phase = tag

def msgIdText (id : MsgId) : String :=
  toString (ofLex id).1 ++ "-" ++ toString (ofLex id).2

def splitHyphen (s : List Char) : Option (List Char × List Char) :=
  match s.dropWhile (· ≠ '-') with
  | [] => none
  | _ :: seq => some (s.takeWhile (· ≠ '-'), seq)

def parseMsgId (s : String) : Except String MsgId :=
  match splitHyphen s.toList with
  | none => .error ("invalid message id: " ++ s)
  | some (ms, seq) =>
    match parseUnsigned 64 (String.ofList ms), parseUnsigned 64 (String.ofList seq) with
    | .ok ms, .ok seq => .ok (toLex (ms, seq))
    | _, _ => .error ("invalid message id: " ++ s)

/-! ### Hashes -/

abbrev Hash := String → Option String

namespace Hash

def hset (hash : Hash) (pairs : List (String × String)) : Hash :=
  pairs.foldl (fun hash pair => Function.update hash pair.1 (some pair.2)) hash

def hdel (hash : Hash) (name : String) : Hash := Function.update hash name none

variable (hash : Hash)

def field (name : String) : Except String String :=
  match hash name with
  | some value => .ok value
  | none => .error ("missing field " ++ name)

/-- The value of a field that a parser reads. -/
def parsed {α ε : Type} (parse : String → Except ε α) (error : ε → String) (name : String) :
    Except String α := do
  let value ← hash.field name
  match parse value with
  | .ok value => .ok value
  | .error e => .error ("invalid " ++ name ++ ": " ++ error e)

/-- A field with a 32-bit number that names a value of an enumeration. -/
def enumField {α : Type} (tryFrom : ℤ → Except String α) (name : String) : Except String α := do
  let n ← hash.parsed (parseSigned 32) ParseIntError.text name
  match tryFrom n with
  | .ok value => .ok value
  | .error e => .error ("invalid " ++ name ++ ": " ++ e)

end Hash

def partyFromText (party : String) : List String :=
  if party = "" then [] else (party.toList.splitOn ',').map String.ofList

/-- The attempt of a stage, of which the text of none is empty. -/
def attemptFromText (attempt : String) : Except String (Option ℕ) :=
  if attempt = "" then .ok none
  else
    match parseUnsigned 32 attempt with
    | .ok attempt => .ok (some attempt)
    | .error e => .error ("invalid stageAttempt: " ++ e.text)

/-- Parses a challenge's projected state hash back into a snapshot. -/
def parseSnapshot (text : SnapshotText) (uuid : Uuid) (hash : Hash) : Except String Snapshot := do
  let attempt := (hash "stageAttempt").getD ""
  let party ← hash.field "party"
  let tag ← hash.field "phase"
  let phase ←
    match phaseFromTag tag with
    | some phase => .ok phase
    | none => .error ("invalid phase: " ++ tag)
  let json ← hash.field "status"
  let status ←
    match statusFromJson json with
    | some status => .ok status
    | none => .error ("invalid status: " ++ text.statusError json)
  let challengeType ← hash.enumField text.typeTryFrom "type"
  let mode ← hash.enumField text.modeTryFrom "mode"
  let stage ← hash.enumField stageTryFrom "stage"
  let stageAttempt ← attemptFromText attempt
  let cursor ← hash.parsed parseMsgId id "cursor"
  return { uuid, challengeType, mode, stage, stageAttempt, party := partyFromText party, phase,
           status, cursor }

/-! ### Projection -/

/-- What the projection of a challenge reads and writes. -/
structure ChallengeKeys where
  fence : Option String
  state : Hash
  clients : Hash
  published : List String

/-- The fields that a snapshot is written as. -/
def statePairs (text : SnapshotText) (snapshot : Snapshot) : List (String × String) :=
  [("type", toString (text.typeNumber snapshot.challengeType)),
    ("mode", toString (text.modeNumber snapshot.mode)),
    ("status", toString (statusNumber snapshot.status)),
    ("stage", toString snapshot.stage.value),
    ("party", ",".intercalate snapshot.party),
    ("phase", phaseTag snapshot.phase),
    ("cursor", msgIdText snapshot.cursor)] ++
  match snapshot.stageAttempt with
  | some attempt => [("stageAttempt", toString attempt)]
  | none => []

namespace ChallengeKeys

/-- The script of a projection, whose first `n` values are those of the state hash. -/
def PROJECT (epoch signal : String) (n : ℕ) (values : List (String × String))
    (keys : ChallengeKeys) : Bool × ChallengeKeys :=
  if keys.fence = some epoch then
    (true,
      { keys with
        state := (keys.state.hdel "stageAttempt").hset (values.take n)
        clients := Hash.hset (fun _ => none) (values.drop n)
        published := keys.published ++ [signal] })
  else (false, keys)

/-- Writes a snapshot and clients, and signals the update. -/
def project (text : SnapshotText) (epoch : Epoch) (snapshot : Snapshot)
    (clients : List PublishedClient) : ChallengeKeys → Bool × ChallengeKeys :=
  PROJECT (toString epoch) (text.signal (.updated snapshot.uuid snapshot.cursor))
    (statePairs text snapshot).length
    (statePairs text snapshot ++ clients.map fun c => (toString c.clientId, text.client c))

end ChallengeKeys

/-! ### Texts that are read back -/

section Texts

variable {text : SnapshotText}

lemma find_of_unique {α : Type*} {p : α → Bool} {l : List α} {a : α} (ha : a ∈ l) (hp : p a = true)
    (hunique : ∀ b, p b = true → b = a) : l.find? p = some a := by
  cases hfind : l.find? p with
  | none => exact absurd hp (List.find?_eq_none.mp hfind a ha)
  | some b => rw [hunique b (List.find?_some hfind)]

lemma typeTryFrom_typeNumber (type : ChallengeType) :
    text.typeTryFrom (text.typeNumber type) = .ok type := by
  unfold SnapshotText.typeTryFrom
  rw [find_of_unique (a := type) (by cases type <;> decide) (decide_eq_true rfl) fun b hb =>
    text.typeNumber_injective (Int.ofNat_inj.mp (of_decide_eq_true hb))]

lemma modeTryFrom_modeNumber (mode : ChallengeMode) :
    text.modeTryFrom (text.modeNumber mode) = .ok mode := by
  unfold SnapshotText.modeTryFrom
  rw [find_of_unique (a := mode) (by cases mode <;> decide) (decide_eq_true rfl) fun b hb =>
    text.modeNumber_injective (Int.ofNat_inj.mp (of_decide_eq_true hb))]

lemma stageTryFrom_value (stage : Stage) : stageTryFrom (stage.value : ℤ) = .ok stage := by
  show (match Stage.tryFrom stage.value with | some stage => _ | none => _) = _
  rw [Stage.tryFrom, dif_pos stage.declared]

lemma stage_value_lt (stage : Stage) : stage.value < 2 ^ 31 := by
  have h := stage.declared
  unfold Stage.Declared at h
  omega

lemma statusFromJson_statusNumber (status : ChallengeStatus) :
    statusFromJson (toString (statusNumber status)) = some status := by
  cases status <;> decide

lemma phaseFromTag_phaseTag (phase : ChallengePhase) :
    phaseFromTag (phaseTag phase) = some phase := by
  cases phase <;> decide

lemma not_hyphen (n : ℕ) : ∀ c ∈ (toString n).toList, decide (c ≠ '-') = true := by
  intro c hc
  obtain ⟨_, _, htext, hdigits, -⟩ := toList_toString n
  refine decide_eq_true fun heq => ?_
  have hdigit := hdigits c (htext ▸ hc)
  rw [heq] at hdigit
  cases hdigit

lemma parseMsgId_msgIdText {id : MsgId} (hms : (ofLex id).1 < 2 ^ 64)
    (hseq : (ofLex id).2 < 2 ^ 64) : parseMsgId (msgIdText id) = .ok id := by
  have htext : (msgIdText id).toList =
      (toString (ofLex id).1).toList ++ '-' :: (toString (ofLex id).2).toList := by
    unfold msgIdText
    rw [String.toList_append, String.toList_append, List.append_assoc]
    rfl
  have hsplit : splitHyphen (msgIdText id).toList =
      some ((toString (ofLex id).1).toList, (toString (ofLex id).2).toList) := by
    unfold splitHyphen
    rw [htext, List.dropWhile_append_of_pos (not_hyphen _),
      List.takeWhile_append_of_pos (not_hyphen _)]
    simp
  unfold parseMsgId
  rw [hsplit]
  dsimp only
  rw [String.ofList_toList, String.ofList_toList, parseUnsigned_toString hms,
    parseUnsigned_toString hseq]
  rfl

lemma partyFromText_intercalate {party : List String}
    (h : ∀ name ∈ party, name ≠ "" ∧ ',' ∉ name.toList) :
    partyFromText (",".intercalate party) = party := by
  cases party with
  | nil => rfl
  | cons name party =>
    have hsplit : (",".intercalate (name :: party)).toList.splitOn ',' =
        (name :: party).map String.toList := by
      rw [String.toList_intercalate]
      refine List.splitOn_intercalate ',' (fun l hl => ?_) (by simp)
      obtain ⟨n, hn, rfl⟩ := List.mem_map.mp hl
      exact (h n hn).2
    have hne : ",".intercalate (name :: party) ≠ "" := by
      intro hempty
      rw [hempty, List.map_cons, show "".toList = [] from rfl, List.splitOn_nil,
        List.cons.injEq] at hsplit
      exact (h name List.mem_cons_self).1 (String.toList_eq_nil_iff.mp hsplit.1.symm)
    unfold partyFromText
    rw [if_neg hne, hsplit, List.map_map]
    exact List.map_id'' (fun n => String.ofList_toList) _

lemma toString_ne_empty (n : ℕ) : toString n ≠ "" := by
  obtain ⟨c, cs, htext, -⟩ := toList_toString n
  intro hempty
  rw [hempty] at htext
  cases htext

end Texts

/-! ### Fields that are read back -/

namespace Hash

variable {hash : Hash} {name value : String}

lemma hset_of_notMem {pairs : List (String × String)} (h : name ∉ pairs.map Prod.fst) :
    hash.hset pairs name = hash name := by
  induction pairs generalizing hash with
  | nil => rfl
  | cons pair pairs ih =>
    rw [List.map_cons, List.mem_cons, not_or] at h
    exact (ih h.2).trans (Function.update_of_ne h.1 _ _)

lemma hset_of_mem {pairs : List (String × String)} (hnodup : (pairs.map Prod.fst).Nodup)
    (h : (name, value) ∈ pairs) : hash.hset pairs name = some value := by
  induction pairs generalizing hash with
  | nil => cases h
  | cons pair pairs ih =>
    rw [List.map_cons, List.nodup_cons] at hnodup
    rcases List.mem_cons.mp h with rfl | h
    · exact (hset_of_notMem hnodup.1).trans (Function.update_self _ _ _)
    · exact ih hnodup.2 h

lemma field_eq (h : hash name = some value) : hash.field name = .ok value := by
  unfold field
  rw [h]

lemma parsed_eq {α ε : Type} {parse : String → Except ε α} {error : ε → String} {a : α}
    (h : hash name = some value) (hparse : parse value = .ok a) :
    hash.parsed parse error name = .ok a := by
  unfold parsed
  rw [field_eq h]
  show (match parse value with | .ok a => .ok a | .error e => _) = Except.ok a
  rw [hparse]

lemma enumField_eq {α : Type} {tryFrom : ℤ → Except String α} {n : ℕ} {a : α}
    (h : hash name = some (toString n)) (hn : n < 2 ^ 31) (htry : tryFrom n = .ok a) :
    hash.enumField tryFrom name = .ok a := by
  unfold enumField
  rw [parsed_eq h (parseSigned_toString hn)]
  show (match tryFrom n with | .ok a => .ok a | .error e => _) = Except.ok a
  rw [htry]

end Hash

/-! ### Snapshots that are read back -/

section Snapshots

variable {text : SnapshotText} {uuid : Uuid} {hash : Hash} {snapshot : Snapshot}

/-- A snapshot of the challenge, whose players have names without commas and whose numbers have
the widths of their types. -/
structure Projectable (uuid : Uuid) (snapshot : Snapshot) : Prop where
  uuid : snapshot.uuid = uuid
  names : ∀ name ∈ snapshot.party, name ≠ "" ∧ ',' ∉ name.toList
  attempt : ∀ n, snapshot.stageAttempt = some n → n < 2 ^ 32
  cursor : (ofLex snapshot.cursor).1 < 2 ^ 64 ∧ (ofLex snapshot.cursor).2 < 2 ^ 64

def projected (text : SnapshotText) (hash : Hash) (snapshot : Snapshot) : Hash :=
  (hash.hdel "stageAttempt").hset (statePairs text snapshot)

lemma projected_of_mem {name value : String} (h : (name, value) ∈ statePairs text snapshot) :
    projected text hash snapshot name = some value := by
  refine Hash.hset_of_mem ?_ h
  unfold statePairs
  cases snapshot.stageAttempt <;> simp

lemma projected_stageAttempt :
    projected text hash snapshot "stageAttempt" = snapshot.stageAttempt.map toString := by
  cases hattempt : snapshot.stageAttempt with
  | none =>
    have hnot : "stageAttempt" ∉ (statePairs text snapshot).map Prod.fst := by
      simp [statePairs, hattempt]
    exact (Hash.hset_of_notMem hnot).trans (Function.update_self _ _ _)
  | some attempt => exact projected_of_mem (by simp [statePairs, hattempt])

lemma projected_eq {name : String} (hash' : Hash)
    (h : name ∈ ["type", "mode", "status", "stage", "party", "phase", "cursor", "stageAttempt"]) :
    projected text hash snapshot name = projected text hash' snapshot name := by
  by_cases hattempt : name = "stageAttempt"
  · rw [hattempt, projected_stageAttempt, projected_stageAttempt]
  · have hmem : ∃ value, (name, value) ∈ statePairs text snapshot := by
      fin_cases h <;> simp [statePairs] at hattempt ⊢
    obtain ⟨value, hmem⟩ := hmem
    rw [projected_of_mem hmem, projected_of_mem hmem]

lemma parseSnapshot_projected (h : Projectable uuid snapshot) :
    parseSnapshot text uuid (projected text hash snapshot) = .ok snapshot := by
  have hfield : ∀ {name value : String}, (name, value) ∈ statePairs text snapshot →
      projected text hash snapshot name = some value := projected_of_mem
  have hattempt : attemptFromText ((projected text hash snapshot "stageAttempt").getD "") =
      .ok snapshot.stageAttempt := by
    rw [projected_stageAttempt]
    cases hattempt : snapshot.stageAttempt with
    | none => rfl
    | some attempt =>
      show attemptFromText (toString attempt) = _
      unfold attemptFromText
      rw [if_neg (toString_ne_empty attempt), parseUnsigned_toString (h.attempt attempt hattempt)]
  have hparty : projected text hash snapshot "party" = some (",".intercalate snapshot.party) :=
    hfield (by simp [statePairs])
  have hphase : projected text hash snapshot "phase" = some (phaseTag snapshot.phase) :=
    hfield (by simp [statePairs])
  have hstatus : projected text hash snapshot "status" =
      some (toString (statusNumber snapshot.status)) := hfield (by simp [statePairs])
  have htype : projected text hash snapshot "type" =
      some (toString (text.typeNumber snapshot.challengeType)) := hfield (by simp [statePairs])
  have hmode : projected text hash snapshot "mode" =
      some (toString (text.modeNumber snapshot.mode)) := hfield (by simp [statePairs])
  have hstage : projected text hash snapshot "stage" = some (toString snapshot.stage.value) :=
    hfield (by simp [statePairs])
  have hcursor : projected text hash snapshot "cursor" = some (msgIdText snapshot.cursor) :=
    hfield (by simp [statePairs])
  unfold parseSnapshot
  rw [Hash.field_eq hparty, Hash.field_eq hphase, Hash.field_eq hstatus,
    Hash.enumField_eq htype (text.typeNumber_lt _) (typeTryFrom_typeNumber _),
    Hash.enumField_eq hmode (text.modeNumber_lt _) (modeTryFrom_modeNumber _),
    Hash.enumField_eq hstage (stage_value_lt _) (stageTryFrom_value _),
    Hash.parsed_eq hcursor (parseMsgId_msgIdText h.cursor.1 h.cursor.2)]
  simp only [bind, Except.bind, pure, Except.pure, phaseFromTag_phaseTag,
    statusFromJson_statusNumber, hattempt, partyFromText_intercalate h.names, ← h.uuid]

/-! ### Sequences of writes -/

namespace ChallengeKeys

/-- What is written to the keys of a challenge: a projection, or the fence of its lease. -/
inductive Write
  | project (epoch : Epoch) (snapshot : Snapshot) (clients : List PublishedClient)
  | fence (fence : Option String)

variable {keys : ChallengeKeys}

lemma project_cases (text : SnapshotText) (epoch : Epoch) (snapshot : Snapshot)
    (clients : List PublishedClient) (keys : ChallengeKeys) :
    keys.fence = some (toString epoch) ∧
        (keys.project text epoch snapshot clients).1 = true ∧
        (keys.project text epoch snapshot clients).2.fence = keys.fence ∧
        (keys.project text epoch snapshot clients).2.state = projected text keys.state snapshot ∨
      keys.fence ≠ some (toString epoch) ∧
        keys.project text epoch snapshot clients = (false, keys) := by
  by_cases h : keys.fence = some (toString epoch)
  · refine .inl ⟨h, ?_⟩
    unfold project PROJECT
    rw [if_pos h, List.take_left]
    exact ⟨rfl, rfl, rfl⟩
  · exact .inr ⟨h, if_neg h⟩

variable (text) in
def write (keys : ChallengeKeys) : Write → ChallengeKeys
  | .project epoch snapshot clients => (keys.project text epoch snapshot clients).2
  | .fence fence => { keys with fence }

variable (text) in
def writeAll (keys : ChallengeKeys) (ws : List Write) : ChallengeKeys := ws.foldl (write text) keys

variable (text) in
def lastProjected (keys : ChallengeKeys) : List Write → Option Snapshot
  | [] => none
  | .fence fence :: ws => lastProjected { keys with fence } ws
  | .project epoch snapshot clients :: ws =>
    (lastProjected (keys.project text epoch snapshot clients).2 ws).or
      (if (keys.project text epoch snapshot clients).1 then some snapshot else none)

lemma state_writeAll (keys : ChallengeKeys) (ws : List Write) :
    match keys.lastProjected text ws with
    | none => (keys.writeAll text ws).state = keys.state
    | some snapshot => ∃ hash, (keys.writeAll text ws).state = projected text hash snapshot := by
  induction ws generalizing keys with
  | nil => exact rfl
  | cons w ws ih =>
    cases w with
    | fence fence => exact ih { keys with fence }
    | project epoch snapshot clients =>
      have hrest := ih (keys.project text epoch snapshot clients).2
      show match (lastProjected text (keys.project text epoch snapshot clients).2 ws).or _ with
        | none => (writeAll text (keys.project text epoch snapshot clients).2 ws).state = _
        | some s => ∃ hash,
          (writeAll text (keys.project text epoch snapshot clients).2 ws).state = projected text hash s
      cases hlast : lastProjected text (keys.project text epoch snapshot clients).2 ws with
      | some s =>
        rw [hlast] at hrest
        exact hrest
      | none =>
        rw [hlast] at hrest
        rcases project_cases text epoch snapshot clients keys with ⟨-, hok, -, hstate⟩ | ⟨-, heq⟩
        · rw [hok]
          exact ⟨keys.state, hrest.trans hstate⟩
        · rw [heq] at hrest ⊢
          exact hrest

/-- **The projected snapshot reads back**: after any writes to the keys of a challenge, its state
hash is parsed into the snapshot that was projected last, and every field that is read has the value
it would have in a new hash. -/
theorem parseSnapshot_writeAll {ws : List Write} (hlast : keys.lastProjected text ws = some snapshot)
    (h : Projectable uuid snapshot) :
    parseSnapshot text uuid (keys.writeAll text ws).state = .ok snapshot ∧
      ∀ name ∈ ["type", "mode", "status", "stage", "party", "phase", "cursor", "stageAttempt"],
        (keys.writeAll text ws).state name = projected text (fun _ => none) snapshot name := by
  have hstate := @state_writeAll text keys ws
  rw [hlast] at hstate
  obtain ⟨hash, hstate⟩ := hstate
  rw [hstate]
  exact ⟨parseSnapshot_projected h, fun name hname => projected_eq _ hname⟩

def wireText : SnapshotText where
  typeNumber
    | .unknownChallenge => 0
    | .tob => 1
    | .cox => 2
    | .toa => 3
    | .colosseum => 4
    | .inferno => 5
    | .mokhaiotl => 6
  modeNumber
    | .noMode => 0
    | .tobEntry => 10
    | .tobRegular => 11
    | .tobHard => 12
    | .coxRegular => 20
    | .coxChallenge => 21
    | .toaEntry => 30
    | .toaNormal => 31
    | .toaExpert => 32
  statusError _ := "expected value at line 1 column 1"
  signal _ := ""
  client _ := ""
  typeNumber_injective a b h := by cases a <;> cases b <;> first | rfl | cases h
  modeNumber_injective a b h := by cases a <;> cases b <;> first | rfl | cases h
  typeNumber_lt a := by cases a <;> norm_num
  modeNumber_lt a := by cases a <;> norm_num

def delve : Snapshot where
  uuid := 7
  challengeType := .mokhaiotl
  mode := .noMode
  stage := Stage.mokhaiotlDelve8plus
  stageAttempt := some 9
  party := ["a b", "c"]
  phase := .active
  status := .inProgress
  cursor := toLex (5, 0)

/-- The attempt of a snapshot is gone when the one after it has none. -/
theorem parseSnapshot_writeAll_attempt :
    let ended := { delve with stageAttempt := none, phase := .terminated, status := .completed }
    let keys : ChallengeKeys :=
      { fence := some "1", state := fun _ => none, clients := fun _ => none, published := [] }
    parseSnapshot wireText 7 (keys.writeAll wireText [.project 1 delve [], .project 1 ended [],
      .fence (some "2"), .project 1 delve []]).state = .ok ended := by
  intro ended keys
  refine (parseSnapshot_writeAll (show _ = some ended from by decide)
    ⟨rfl, by decide, nofun, ?_⟩).1
  exact ⟨by decide, by decide⟩

/-! ### The store's own view -/

def Represents (text : SnapshotText) (uuid : Uuid) (keys : ChallengeKeys) (s : Store) : Prop :=
  keys.fence = (s.fence uuid).map toString ∧
    ∀ snapshot, s.challenge uuid = some snapshot →
      parseSnapshot text uuid keys.state = .ok snapshot

/-- **A projection to the keys is one to the store**: it is accepted by both or by neither, and the
keys hold what the store has after it. -/
theorem project_represents {s : Store} (hs : keys.Represents text uuid s)
    (h : Projectable uuid snapshot) (epoch : Epoch) (clients : List PublishedClient) :
    let signal := .updated snapshot.uuid snapshot.cursor
    (keys.project text epoch snapshot clients).1 =
        (Redis.PROJECT uuid epoch signal snapshot clients s).1 ∧
      (keys.project text epoch snapshot clients).2.Represents text uuid
        (Redis.PROJECT uuid epoch signal snapshot clients s).2 := by
  intro signal
  have hfence : keys.fence = some (toString epoch) ↔ s.fence uuid = some epoch := by
    rw [hs.1, Option.map_eq_some_iff]
    constructor
    · rintro ⟨e, he, htext⟩
      rw [he, toString_injective htext]
    · exact fun he => ⟨epoch, he, rfl⟩
  unfold Redis.PROJECT fenced
  rcases project_cases text epoch snapshot clients keys with
    ⟨hheld, hok, hfence', hstate⟩ | ⟨hheld, heq⟩
  · rw [if_pos (hfence.mp hheld), hok]
    refine ⟨rfl, hfence'.trans hs.1, fun s' hs' => ?_⟩
    have hs' : Function.update s.challenge uuid (some snapshot) uuid = some s' := hs'
    rw [Function.update_self, Option.some_inj] at hs'
    rw [hstate, ← hs']
    exact parseSnapshot_projected h
  · rw [if_neg fun he => hheld (hfence.mpr he), heq]
    exact ⟨rfl, hs⟩

/-- The first projection of a challenge that has been started. -/
theorem project_represents_delve :
    let s := ((Call.start soloStart 0).exec .empty).2
    let keys : ChallengeKeys := ⟨some "1", fun _ => none, fun _ => none, []⟩
    (keys.project wireText 1 delve []).2.Represents wireText 7
      (Redis.PROJECT 7 1 (.updated 7 delve.cursor) delve [] s).2 :=
  (project_represents ⟨by decide, fun _ h => by cases (show none = some _ from h)⟩
    ⟨rfl, by decide, by decide, by decide⟩ 1 []).2

end ChallengeKeys

end Snapshots

end Blert.Redis
