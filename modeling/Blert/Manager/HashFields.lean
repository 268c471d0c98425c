import Mathlib.Data.Fintype.Basic
import Blert.Json

/-!
The fields of a challenge as the texts of a Redis hash.

Every field is written by the kind of its value and a null by deleting the field. Two functions read
the fields back, one the whole hash and one the fields that were asked for.
-/

namespace Blert.Manager.HashFields

inductive Field
  | id | sessionId | uuid | type | mode | stage | stageAttempt | status | stageStatus | party
  | players | totalDeaths | challengeTicks | state | reportedChallengeTicks | reportedOverallTicks
  | timeoutState | processingStage | customData | partyChangedMidChallenge
  deriving DecidableEq

def Field.all : List Field :=
  [id, sessionId, uuid, type, mode, stage, stageAttempt, status, stageStatus, party, players,
    totalDeaths, challengeTicks, state, reportedChallengeTicks, reportedOverallTicks, timeoutState,
    processingStage, customData, partyChangedMidChallenge]

lemma Field.mem_all (f : Field) : f ∈ all := by
  cases f <;> decide

instance : Fintype Field := Fintype.ofList Field.all Field.mem_all

abbrev Number := Option ℤ

abbrev JsonObject := List (Text × Json)

inductive Kind
  | number | nullableNumber | text | names | players | nullableObject | flag

/-- What the fields of a kind hold, a null being `none`. -/
abbrev Kind.Value : Kind → Type
  | number => Number
  | nullableNumber => Option Number
  | text => Text
  | names => List Text
  | players => Json
  | nullableObject => Option JsonObject
  | flag => Bool

abbrev Field.kind : Field → Kind
  | uuid => .text
  | stageAttempt | reportedChallengeTicks | reportedOverallTicks | processingStage =>
    .nullableNumber
  | party => .names
  | players => .players
  | customData => .nullableObject
  | partyChangedMidChallenge => .flag
  | _ => .number

abbrev Field.Value (f : Field) : Type := f.kind.Value

abbrev ExtendedChallengeState := (f : Field) → f.Value

abbrev PartialState := (f : Field) → Option f.Value

def PartialState.only (f : Field) (v : f.Value) : PartialState :=
  Function.update (fun _ => none) f (some v)

abbrev Hash := Field → Option Text

/-! ### Writing -/

def numberText : Number → Text
  | none => ['N', 'a', 'N']
  | some n => JsText.intText n

def toText : (k : Kind) → k.Value → Option Text
  | .number, n => some (numberText n)
  | .nullableNumber, n => n.map numberText
  | .text, s => some s
  | .names, names => some (List.intercalate [','] names)
  | .players, json => some json.stringify
  | .nullableObject, object => object.map fun members => (Json.obj members).stringify
  | .flag, b => some (if b then ['1'] else ['0'])

def isNull : (k : Kind) → k.Value → Bool
  | .nullableNumber, n => n.isNone
  | .nullableObject, object => object.isNone
  | _, _ => false

def challengeToRedis (state : PartialState) : Hash := fun f => (state f).bind (toText f.kind)

/-- Sets the fields that have a text, then deletes the nulls. -/
def setChallengeFields (fields : PartialState) (hash : Hash) : Hash :=
  let stored : Hash := fun f => (challengeToRedis fields f).or (hash f)
  fun f => if (fields f).any (isNull f.kind) then none else stored f

/-! ### Reading -/

def splitNames (text : Text) : List Text := text.splitOn ','

def nullableNumber (text : Option Text) : Option Number :=
  text.bind fun t => if t = [] then none else some (JsText.parseInt t)

def nullableObject (text : Option Text) : Option (Option JsonObject) :=
  match text with
  | none | some [] => some none
  | some t =>
    match Json.parse t with
    | some (.obj members) => some (some members)
    | _ => none

/-- A field of the complete state. There is none where the text is needed and is not there. -/
def completeField : (f : Field) → Option Text → Option f.Value
  | .id, t => some (t.bind JsText.parseInt)
  | .sessionId, t => some (t.bind JsText.parseInt)
  | .uuid, t => t
  | .type, t => some (t.bind JsText.parseInt)
  | .mode, t => some (t.bind JsText.parseInt)
  | .stage, t => some (t.bind JsText.parseInt)
  | .stageAttempt, t => some (nullableNumber t)
  | .status, t => some (t.bind JsText.parseInt)
  | .stageStatus, t => some (t.bind JsText.parseInt)
  | .party, t => t.map splitNames
  | .players, t => t.bind Json.parse
  | .totalDeaths, t => some (t.bind JsText.parseInt)
  | .challengeTicks, t => some (t.bind JsText.parseInt)
  | .state, t => some (t.bind JsText.parseInt)
  | .reportedChallengeTicks, t => some (nullableNumber t)
  | .reportedOverallTicks, t => some (nullableNumber t)
  | .timeoutState, t => some (t.bind JsText.parseInt)
  | .processingStage, t => some (nullableNumber t)
  | .customData, t => nullableObject t
  | .partyChangedMidChallenge, t => some (decide (t = some ['1']))

/-- Converts a complete hash, if every field can be. -/
def challengeFromRedisComplete (hash : Hash) : Option ExtendedChallengeState :=
  if h : ∀ f, (completeField f (hash f)).isSome then
    some fun f => (completeField f (hash f)).get (h f)
  else none

def partialField : (f : Field) → Text → Option f.Value
  | .id, t => some (JsText.parseInt t)
  | .sessionId, t => some (JsText.parseInt t)
  | .uuid, t => some t
  | .type, t => some (JsText.parseInt t)
  | .mode, t => some (JsText.parseInt t)
  | .stage, t => some (JsText.parseInt t)
  | .stageAttempt, t => some (nullableNumber (some t))
  | .status, t => some (JsText.parseInt t)
  | .stageStatus, t => some (JsText.parseInt t)
  | .party, t => some (splitNames t)
  | .players, t => Json.parse t
  | .totalDeaths, t => some (JsText.parseInt t)
  | .challengeTicks, t => some (JsText.parseInt t)
  | .state, t => some (JsText.parseInt t)
  | .reportedChallengeTicks, t => some (nullableNumber (some t))
  | .reportedOverallTicks, t => some (nullableNumber (some t))
  | .timeoutState, t => some (JsText.parseInt t)
  | .processingStage, t => some (nullableNumber (some t))
  | .customData, t => nullableObject (some t)
  | .partyChangedMidChallenge, t => some (decide (t = ['1']))

/-- Converts the fields that are there, if every one of them can be. -/
def challengeFromRedis (hash : Hash) : Option PartialState :=
  if ∀ f, ∀ t ∈ hash f, (partialField f t).isSome then
    some fun f => (hash f).bind (partialField f)
  else none

def challengeFromRedisArray (fields : List Field) (values : Hash) : Option PartialState :=
  challengeFromRedis fun f => if f ∈ fields then values f else none

/-! ### Commands -/

structure ChallengeTimeout where
  timestamp : ℤ
  maxRetryAttempts : ℤ
  retryIntervalMs : ℤ

def ChallengeTimeout.toJson (timeout : ChallengeTimeout) : Json :=
  .obj [("timestamp".toList, .num timeout.timestamp),
    ("maxRetryAttempts".toList, .num timeout.maxRetryAttempts),
    ("retryIntervalMs".toList, .num timeout.retryIntervalMs)]

inductive TimeoutState
  | none | stageEnd | challengeEnd | cleanup

def TimeoutState.number : TimeoutState → ℤ
  | none => 0
  | stageEnd => 1
  | challengeEnd => 2
  | cleanup => 3

variable {Uuid : Type} [DecidableEq Uuid]

structure Redis (Uuid : Type) where
  challenges : Uuid → Hash
  expiring : Uuid → Option Text

inductive Op (Uuid : Type)
  | setChallengeFields (uuid : Uuid) (fields : PartialState)
  | setChallengeTimeout (uuid : Uuid) (state : TimeoutState) (timeout : ChallengeTimeout)
  | clearChallengeTimeout (uuid : Uuid)

def setTimeoutState (state : TimeoutState) (hash : Hash) : Hash :=
  Function.update hash .timeoutState (some (numberText (some state.number)))

def step (redis : Redis Uuid) : Op Uuid → Redis Uuid
  | .setChallengeFields uuid fields =>
    { redis with
      challenges := Function.update redis.challenges uuid
        (setChallengeFields fields (redis.challenges uuid)) }
  | .setChallengeTimeout uuid state timeout =>
    { challenges := Function.update redis.challenges uuid
        (setTimeoutState state (redis.challenges uuid))
      expiring := Function.update redis.expiring uuid (some timeout.toJson.stringify) }
  | .clearChallengeTimeout uuid =>
    { challenges := Function.update redis.challenges uuid
        (setTimeoutState .none (redis.challenges uuid))
      expiring := Function.update redis.expiring uuid none }

def run (redis : Redis Uuid) (ops : List (Op Uuid)) : Redis Uuid := ops.foldl step redis

/-- The whole challenge, or no challenge where the hash is empty. Nothing is returned where the
conversion fails. -/
def getChallenge (redis : Redis Uuid) (uuid : Uuid) : Option (Option ExtendedChallengeState) :=
  if ∀ f, redis.challenges uuid f = none then some none
  else (challengeFromRedisComplete (redis.challenges uuid)).map some

def getChallengeFields (redis : Redis Uuid) (uuid : Uuid) (fields : List Field) :
    Option PartialState :=
  challengeFromRedisArray fields (redis.challenges uuid)

/-! ### What was written last -/

/-- The fields of a challenge that an operation writes. -/
def Op.fields (uuid : Uuid) : Op Uuid → PartialState
  | .setChallengeFields u fields => if u = uuid then fields else fun _ => none
  | .setChallengeTimeout u state _ =>
    if u = uuid then .only .timeoutState (some state.number) else fun _ => none
  | .clearChallengeTimeout u =>
    if u = uuid then .only .timeoutState (some TimeoutState.none.number) else fun _ => none

def lastWritten (uuid : Uuid) (ops : List (Op Uuid)) : PartialState :=
  ops.foldl (fun last op f => (op.fields uuid f).or (last f)) fun _ => none

lemma lastWritten_append (uuid : Uuid) (ops : List (Op Uuid)) (op : Op Uuid) (f : Field) :
    lastWritten uuid (ops ++ [op]) f = (op.fields uuid f).or (lastWritten uuid ops f) := by
  simp [lastWritten]

lemma isNull_iff {k : Kind} (v : k.Value) : isNull k v = true ↔ toText k v = none := by
  cases k <;> simp [isNull, toText]

lemma setChallengeFields_apply (fields : PartialState) (hash : Hash) (f : Field) :
    setChallengeFields fields hash f =
      ((fields f).map (toText f.kind)).getD (hash f) := by
  rcases hf : fields f with _ | v
  · simp [setChallengeFields, challengeToRedis, hf]
  · rcases ht : toText f.kind v with _ | t
    · have hnull := (isNull_iff v).2 ht
      simp [setChallengeFields, hf, ht, hnull]
    · have hnull : isNull f.kind v = false := by
        rw [Bool.eq_false_iff]
        exact fun h => by simp [(isNull_iff v).1 h] at ht
      simp [setChallengeFields, challengeToRedis, hf, ht, hnull]

/-- What an operation writes to a field replaces the text of the field, and the other fields stay as
they are. -/
lemma step_challenges (redis : Redis Uuid) (op : Op Uuid) (uuid : Uuid) (f : Field) :
    (step redis op).challenges uuid f =
      ((op.fields uuid f).map (toText f.kind)).getD (redis.challenges uuid f) := by
  have htimeout : ∀ state : TimeoutState, setTimeoutState state (redis.challenges uuid) f =
      ((PartialState.only .timeoutState (some state.number) f).map (toText f.kind)).getD
        (redis.challenges uuid f) := by
    intro state
    by_cases hf : f = .timeoutState
    · subst hf
      rfl
    · rw [setTimeoutState, PartialState.only, Function.update_of_ne hf, Function.update_of_ne hf]
      rfl
  cases op with
  | setChallengeFields u fields =>
    by_cases hu : u = uuid
    · subst hu
      simp [step, Op.fields, setChallengeFields_apply]
    · simp [step, Op.fields, hu, Function.update_of_ne (Ne.symm hu)]
  | setChallengeTimeout u state timeout =>
    by_cases hu : u = uuid
    · subst hu
      simp only [step, Function.update_self, Op.fields, if_pos, htimeout]
    · simp [step, Op.fields, hu, Function.update_of_ne (Ne.symm hu)]
  | clearChallengeTimeout u =>
    by_cases hu : u = uuid
    · subst hu
      simp only [step, Function.update_self, Op.fields, if_pos, htimeout]
    · simp [step, Op.fields, hu, Function.update_of_ne (Ne.symm hu)]

lemma run_challenges (redis : Redis Uuid) (ops : List (Op Uuid)) (uuid : Uuid) (f : Field) :
    (run redis ops).challenges uuid f =
      ((lastWritten uuid ops f).map (toText f.kind)).getD (redis.challenges uuid f) := by
  induction ops using List.reverseRecOn with
  | nil => rfl
  | append_singleton ops op ih =>
    rw [run, List.foldl_append, List.foldl_cons, List.foldl_nil, ← run, step_challenges, ih,
      lastWritten_append]
    cases op.fields uuid f <;> rfl

/-! ### Reading back -/

/-- A party can be told from its text: there is one name at least, and no comma in a name. -/
def Separable (names : List Text) : Prop := names ≠ [] ∧ ∀ name ∈ names, ',' ∉ name

def Kind.Legible : (k : Kind) → k.Value → Prop
  | .names, party => Separable party
  | _, _ => True

lemma parseInt_numberText (n : Number) : JsText.parseInt (numberText n) = n := by
  cases n with
  | none => decide
  | some n => exact JsText.parseInt_text n

lemma numberText_ne_nil (n : Number) : numberText n ≠ [] := by
  cases n with
  | none => exact List.cons_ne_nil _ _
  | some n =>
    rw [numberText, JsText.intText]
    split_ifs
    · exact List.cons_ne_nil _ _
    · exact JsText.natText_ne_nil _

lemma nullableNumber_map (n : Option Number) : nullableNumber (n.map numberText) = n := by
  cases n with
  | none => rfl
  | some n => simp [nullableNumber, numberText_ne_nil, parseInt_numberText]

lemma splitNames_intercalate {names : List Text} (h : Separable names) :
    splitNames (List.intercalate [','] names) = names :=
  List.splitOn_intercalate ',' h.2 h.1

lemma nullableObject_stringify (members : JsonObject) :
    nullableObject (some (Json.obj members).stringify) = some (some members) := by
  have hne := Json.stringify_ne_nil (.obj members)
  have hread := Json.parse_stringify (.obj members)
  generalize (Json.obj members).stringify = text at hne hread
  obtain ⟨c, cs, rfl⟩ := List.exists_cons_of_ne_nil hne
  simp [nullableObject, hread]

lemma nullableObject_map (object : Option JsonObject) :
    nullableObject (object.map fun members => (Json.obj members).stringify) = some object := by
  cases object with
  | none => rfl
  | some members => exact nullableObject_stringify members

/-- Both functions read a field by the kind of its value. -/
def readKind : (k : Kind) → Option Text → Option k.Value
  | .number, t => some (t.bind JsText.parseInt)
  | .nullableNumber, t => some (nullableNumber t)
  | .text, t => t
  | .names, t => t.map splitNames
  | .players, t => t.bind Json.parse
  | .nullableObject, t => nullableObject t
  | .flag, t => some (decide (t = some ['1']))

lemma completeField_eq (f : Field) (t : Option Text) : completeField f t = readKind f.kind t := by
  cases f <;> rfl

lemma partialField_eq (f : Field) (t : Text) : partialField f t = readKind f.kind (some t) := by
  cases f <;> simp [partialField, readKind]

lemma readKind_toText {k : Kind} {v : k.Value} (h : k.Legible v) :
    readKind k (toText k v) = some v := by
  cases k with
  | number => exact congrArg some (parseInt_numberText v)
  | nullableNumber => exact congrArg some (nullableNumber_map v)
  | text => rfl
  | names => exact congrArg some (splitNames_intercalate h)
  | players => exact Json.parse_stringify v
  | nullableObject => exact nullableObject_map v
  | flag => cases v <;> rfl

/-- Every write to the party of a challenge can be told from its text. -/
def PartyFits (fields : PartialState) : Prop := ∀ party ∈ fields .party, Separable party

lemma legible_of_partyFits {fields : PartialState} (h : PartyFits fields) {f : Field}
    {v : f.Value} (hv : fields f = some v) : f.kind.Legible v := by
  by_cases hf : f = .party
  · subst hf
    exact h v hv
  · cases f <;> first | exact absurd rfl hf | trivial

lemma lastWritten_partyFits (uuid : Uuid) {ops : List (Op Uuid)}
    (h : ∀ op ∈ ops, PartyFits (op.fields uuid)) : PartyFits (lastWritten uuid ops) := by
  induction ops using List.reverseRecOn with
  | nil => exact fun party hparty => absurd hparty (by simp [lastWritten])
  | append_singleton ops op ih =>
    intro party hparty
    rw [lastWritten_append, Option.mem_def, Option.or_eq_some_iff] at hparty
    rcases hparty with hop | ⟨-, hearlier⟩
    · exact h op (by simp) party hop
    · exact ih (fun op' h' => h op' (List.mem_append_left _ h')) party hearlier

lemma lastWritten_isSome {uuid : Uuid} {op : Op Uuid} {f : Field}
    (h : (op.fields uuid f).isSome) (ops : List (Op Uuid)) :
    (lastWritten uuid (op :: ops) f).isSome := by
  induction ops using List.reverseRecOn with
  | nil => simpa [lastWritten] using h
  | append_singleton ops op' ih =>
    rw [← List.cons_append, lastWritten_append, Option.isSome_or, ih, Bool.or_true]

/-- What is read of a field of a state among those asked for. A null is not there. -/
def ExtendedChallengeState.among (state : ExtendedChallengeState) (fields : List Field) :
    PartialState :=
  fun f => if f ∈ fields ∧ isNull f.kind (state f) = false then some (state f) else none

lemma challengeFromRedisComplete_texts {state : ExtendedChallengeState} {hash : Hash}
    (hlegible : ∀ f : Field, f.kind.Legible (state f)) (h : ∀ f, hash f = toText f.kind (state f)) :
    challengeFromRedisComplete hash = some state := by
  have hread : ∀ f, completeField f (hash f) = some (state f) := fun f => by
    rw [h, completeField_eq, readKind_toText (hlegible f)]
  unfold challengeFromRedisComplete
  rw [dif_pos fun f => by rw [hread]; rfl]
  congr
  funext f
  simp [hread]

lemma challengeFromRedisArray_texts {state : ExtendedChallengeState} {hash : Hash}
    (hlegible : ∀ f : Field, f.kind.Legible (state f)) (h : ∀ f, hash f = toText f.kind (state f))
    (fields : List Field) : challengeFromRedisArray fields hash = some (state.among fields) := by
  have hread : ∀ f t, hash f = some t → partialField f t = some (state f) := fun f t ht => by
    rw [partialField_eq, ← ht, h, readKind_toText (hlegible f)]
  have hvalues : ∀ f, ((if f ∈ fields then hash f else none).bind (partialField f)) =
      state.among fields f := by
    intro f
    unfold ExtendedChallengeState.among
    by_cases hf : f ∈ fields
    · rw [if_pos hf]
      rcases ht : hash f with _ | t
      · have hnull := (isNull_iff (state f)).2 ((h f).symm.trans ht)
        simp [hnull]
      · have hnull : isNull f.kind (state f) = false := by
          rw [Bool.eq_false_iff]
          intro hnull
          rw [h, (isNull_iff (state f)).1 hnull] at ht
          cases ht
        simp [hf, hnull, hread f t ht]
    · simp [hf]
  unfold challengeFromRedisArray challengeFromRedis
  rw [if_pos]
  · exact congrArg some (funext hvalues)
  · intro f t (ht : (if f ∈ fields then hash f else none) = some t)
    by_cases hf : f ∈ fields
    · rw [if_pos hf] at ht
      rw [hread f t ht]
      rfl
    · simp [hf] at ht

/-- After a full write and any writes, timeouts and clearings, both readers return for each field
what was written to it last. -/
theorem reads_back (redis : Redis Uuid) (uuid : Uuid) {first : PartialState}
    {ops : List (Op Uuid)} (hfull : ∀ f, (first f).isSome) (hfirst : PartyFits first)
    (hops : ∀ op ∈ ops, PartyFits (op.fields uuid)) :
    ∃ state : ExtendedChallengeState,
      (∀ f, lastWritten uuid (.setChallengeFields uuid first :: ops) f = some (state f)) ∧
      getChallenge (run redis (.setChallengeFields uuid first :: ops)) uuid =
        some (some state) ∧
      ∀ fields, getChallengeFields (run redis (.setChallengeFields uuid first :: ops)) uuid
        fields = some (state.among fields) := by
  have hfields : (Op.setChallengeFields uuid first).fields uuid = first := by simp [Op.fields]
  have hsome : ∀ f, (lastWritten uuid (.setChallengeFields uuid first :: ops) f).isSome :=
    fun f => lastWritten_isSome (by rw [hfields]; exact hfull f) ops
  have hfits : PartyFits (lastWritten uuid (.setChallengeFields uuid first :: ops)) :=
    lastWritten_partyFits uuid (List.forall_mem_cons.mpr ⟨by rwa [hfields], hops⟩)
  choose state hstate using fun f => Option.isSome_iff_exists.mp (hsome f)
  have hlegible : ∀ f : Field, f.kind.Legible (state f) :=
    fun f => legible_of_partyFits hfits (hstate f)
  have htexts : ∀ f, (run redis (.setChallengeFields uuid first :: ops)).challenges uuid f =
      toText f.kind (state f) := fun f => by
    rw [run_challenges, hstate]
    rfl
  refine ⟨state, hstate, ?_, fun fields => challengeFromRedisArray_texts hlegible htexts fields⟩
  -- the hash has an id at least
  have hid : ¬∀ f, (run redis (.setChallengeFields uuid first :: ops)).challenges uuid f = none :=
    fun h => by
      have := (htexts .id).symm.trans (h .id)
      cases this
  rw [getChallenge, if_neg hid, challengeFromRedisComplete_texts hlegible htexts]
  rfl

def startFields (party : List Text) : PartialState
  | .id => some (some 7)
  | .sessionId => some (some 3)
  | .uuid => some ['a', 'b']
  | .type => some (some 1)
  | .mode => some (some 11)
  | .stage => some (some 10)
  | .stageAttempt => some none
  | .status => some (some 0)
  | .stageStatus => some (some 0)
  | .party => some party
  | .players => some (.arr [.obj [(['i', 'd'], .num 4)]])
  | .totalDeaths => some (some 0)
  | .challengeTicks => some (some 0)
  | .state => some (some 1)
  | .reportedChallengeTicks => some none
  | .reportedOverallTicks => some none
  | .timeoutState => some (some 0)
  | .processingStage => some none
  | .customData => some none
  | .partyChangedMidChallenge => some false

def emptyRedis : Redis ℕ := ⟨fun _ _ => none, fun _ => none⟩

/-- A stage with an attempt, then a timeout, then a stage without one. -/
def stageWrites : List (Op ℕ) :=
  [.setChallengeFields 0 (.only .stageAttempt (some (some 2))),
    .setChallengeTimeout 0 .stageEnd ⟨5000, 2, 100⟩,
    .setChallengeFields 0 (.only .stageAttempt none)]

lemma startFields_partyFits : PartyFits (startFields [['p', '1'], ['p', '2']]) := by
  rintro party hparty
  cases hparty
  exact ⟨List.cons_ne_nil _ _, by decide⟩

lemma stageWrites_partyFits : ∀ op ∈ stageWrites, PartyFits (op.fields 0) := by
  simp [stageWrites, PartyFits, Op.fields, PartialState.only]

theorem reads_back_stageWrites :
    ∃ state : ExtendedChallengeState,
      (∀ f, lastWritten 0 (.setChallengeFields 0 (startFields [['p', '1'], ['p', '2']]) ::
        stageWrites) f = some (state f)) ∧
      getChallenge (run emptyRedis (.setChallengeFields 0
        (startFields [['p', '1'], ['p', '2']]) :: stageWrites)) 0 = some (some state) ∧
      ∀ fields, getChallengeFields (run emptyRedis (.setChallengeFields 0
        (startFields [['p', '1'], ['p', '2']]) :: stageWrites)) 0 fields =
          some (state.among fields) :=
  reads_back emptyRedis 0 (by intro f; cases f <;> rfl) startFields_partyFits
    stageWrites_partyFits

/-- A party without names is read as one of a single empty name. -/
theorem empty_party_read :
    ¬∀ first : PartialState, (∀ f, (first f).isSome) →
      (∀ party ∈ first .party, ∀ name ∈ party, name ≠ [] ∧ ',' ∉ name) →
      ∃ state : ExtendedChallengeState,
        (∀ f, lastWritten 0 [.setChallengeFields 0 first] f = some (state f)) ∧
        getChallenge (run emptyRedis [.setChallengeFields 0 first]) 0 = some (some state) ∧
        ∀ fields, getChallengeFields (run emptyRedis [.setChallengeFields 0 first]) 0 fields =
          some (state.among fields) := by
  intro h
  obtain ⟨state, hlast, -, hread⟩ := h (startFields []) (by intro f; cases f <;> rfl) (by
    rintro party hparty
    cases hparty
    exact fun _ hname => absurd hname List.not_mem_nil)
  have hparty : state .party = [] := (Option.some.inj (hlast .party)).symm
  have hfield := congrArg (Option.bind · fun read => read .party) (hread [.party])
  have hgot : (getChallengeFields (run emptyRedis [.setChallengeFields 0 (startFields [])]) 0
      [.party]).bind (fun read => read .party) = some [[]] := by
    rfl
  have hasked : state.among [.party] .party = some [] := by
    simp [ExtendedChallengeState.among, isNull, hparty]
  rw [hgot] at hfield
  exact absurd (hfield.trans hasked) (by decide)

end Blert.Manager.HashFields
