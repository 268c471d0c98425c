import Blert.Json
import Blert.Lifecycle.Types

/-!
The records of a stage's stream, as one server writes them and two others read them.

A record has texts for its numbers and versions, raw bytes for its events and JSON for the report at
the end of a stage. The one reader takes every number as it is, and the other checks it against the
type it has there.
-/

namespace Blert.Redis.StageStream

open Lifecycle (Stage StageStatus)
open Decimals

/-! ### Writing -/

structure ServerTicks where
  count : ℤ
  precise : Bool

structure StageUpdate where
  stage : ℤ
  status : ℤ
  accurate : Bool
  recordedTicks : ℤ
  serverTicks : Option ServerTicks

inductive ClientStageStream
  | stageEvents (clientId : ℤ) (events : ByteArray)
  | stageEnd (clientId : ℤ) (update : StageUpdate)
  | clientMetadata (clientId userId : ℤ) (pluginVersion runeLiteVersion : Text)

abbrev Record := List (Text × ByteArray)

def utf8 (text : Text) : ByteArray := (String.ofList text).toByteArray

def numberText (n : ℤ) : ByteArray := utf8 (JsText.intText n)

def ServerTicks.toJson (ticks : ServerTicks) : Json :=
  .obj [("count".toList, .num ticks.count), ("precise".toList, .bool ticks.precise)]

def StageUpdate.toJson (update : StageUpdate) : Json :=
  .obj [("stage".toList, .num update.stage), ("status".toList, .num update.status),
    ("accurate".toList, .bool update.accurate),
    ("recordedTicks".toList, .num update.recordedTicks),
    ("serverTicks".toList, (update.serverTicks.map ServerTicks.toJson).getD .null)]

def stageStreamToRecord : ClientStageStream → Record
  | .stageEvents clientId events =>
    [("type".toList, numberText 0), ("clientId".toList, numberText clientId),
      ("events".toList, events)]
  | .stageEnd clientId update =>
    [("type".toList, numberText 1), ("clientId".toList, numberText clientId),
      ("update".toList, utf8 update.toJson.stringify)]
  | .clientMetadata clientId userId pluginVersion runeLiteVersion =>
    [("type".toList, numberText 2), ("clientId".toList, numberText clientId),
      ("userId".toList, numberText userId), ("pluginVersion".toList, utf8 pluginVersion),
      ("runeLiteVersion".toList, utf8 runeLiteVersion)]

/-! ### What a socket server writes -/

structure StageUpdateJson where
  stage : ℤ
  status : ℤ
  accurate : Bool
  recordedTicks : ℤ
  gameServerTicks : Option ℤ
  gameTicksPrecise : Bool

/-- A whole number that the numbers of the language have for itself alone. -/
def IsSafe (n : ℤ) : Prop := n.natAbs < 2 ^ 53

def EnumValue (n : ℤ) : Prop := IsSafe n ∧ 0 ≤ n

/-- A message whose stage update has this form is let in. -/
structure StageUpdateSchema (json : StageUpdateJson) : Prop where
  stage : EnumValue json.stage
  status : EnumValue json.status
  recordedTicks : IsSafe json.recordedTicks ∧ 0 ≤ json.recordedTicks
  gameServerTicks : ∀ n ∈ json.gameServerTicks, IsSafe n

def handleChallengeUpdate (json : StageUpdateJson) : StageUpdate :=
  { stage := json.stage
    status := json.status
    accurate := json.accurate
    recordedTicks := json.recordedTicks
    serverTicks := json.gameServerTicks.map fun count => ⟨count, json.gameTicksPrecise⟩ }

def statusNumber : StageStatus → ℕ
  | .entered => 0
  | .started => 1
  | .completed => 2
  | .wiped => 3

/-- The end of a stage is written for an update that says the stage is over. -/
def IsOver (update : StageUpdate) : Prop :=
  update.status = statusNumber .completed ∨ update.status = statusNumber .wiped

/-- What a socket server can write: the metadata and the events of any client, and the end of a
stage for any message that is let in. -/
inductive Written : ClientStageStream → Prop
  | stageEvents {clientId : ℤ} (hclient : IsSafe clientId) (events : ByteArray) :
    Written (.stageEvents clientId events)
  | stageEnd {clientId : ℤ} {json : StageUpdateJson} (hclient : IsSafe clientId)
    (hschema : StageUpdateSchema json) (hover : IsOver (handleChallengeUpdate json)) :
    Written (.stageEnd clientId (handleChallengeUpdate json))
  | clientMetadata {clientId userId : ℤ} (hclient : IsSafe clientId) (huser : IsSafe userId)
    (pluginVersion runeLiteVersion : Text) :
    Written (.clientMetadata clientId userId pluginVersion runeLiteVersion)

/-! ### The reader of the same language -/

def value (record : Record) (name : Text) : Option ByteArray :=
  (record.find? fun v => v.1 = name).map Prod.snd

def bufferText (replaced : ByteArray → Text) (bytes : ByteArray) : Text :=
  match bytes.utf8Decode? with
  | some chars => chars.toList
  | none => replaced bytes

def ServerTicks.ofJson : Json → Option ServerTicks
  | .obj members => do
    match ← Json.member "count".toList members, ← Json.member "precise".toList members with
    | .num count, .bool precise => some ⟨count, precise⟩
    | _, _ => none
  | _ => none

/-- The update in a JSON value. A value of another form is taken for none. -/
def StageUpdate.ofJson : Json → Option StageUpdate
  | .obj members => do
    let serverTicks ← (match ← Json.member "serverTicks".toList members with
      | .null => some none
      | ticks => (ServerTicks.ofJson ticks).map some)
    match ← Json.member "stage".toList members, ← Json.member "status".toList members,
      ← Json.member "accurate".toList members, ← Json.member "recordedTicks".toList members with
    | .num stage, .num status, .bool accurate, .num recordedTicks =>
      some ⟨stage, status, accurate, recordedTicks, serverTicks⟩
    | _, _, _, _ => none
  | _ => none

/-- The entry of a record, if there is one. A record whose ids are no numbers has none here. -/
def stageStreamFromRecord (replaced : ByteArray → Text) (record : Record) :
    Option ClientStageStream := do
  let text := bufferText replaced
  let type := JsText.parseInt (text (← value record "type".toList))
  let clientId ← JsText.parseInt (text (← value record "clientId".toList))
  if type = some 0 then
    some (.stageEvents clientId (← value record "events".toList))
  else if type = some 1 then
    let update ← Json.parse (text (← value record "update".toList))
    some (.stageEnd clientId (← StageUpdate.ofJson update))
  else if type = some 2 then
    let userId ← JsText.parseInt (text (← value record "userId".toList))
    some (.clientMetadata clientId userId (text (← value record "pluginVersion".toList))
      (text (← value record "runeLiteVersion".toList)))
  else none

/-! ### The reader of the other language -/

namespace Reader

structure ServerTicks where
  count : ℕ
  precise : Bool

structure StageUpdate where
  stage : Stage
  status : StageStatus
  accurate : Bool
  recordedTicks : ℕ
  serverTicks : Option ServerTicks

inductive ClientStageStream
  | metadata (clientId userId : ℤ) (pluginVersion runeliteVersion : Text)
  | events (clientId : ℤ) (events : ByteArray)
  | stageEnd (clientId : ℤ) (update : StageUpdate)

inductive RecordError
  | missing (name : Text)
  | notUtf8 (name : Text)
  | invalid (name : Text) (error : ParseIntError)
  | invalidUpdate
  | unknownType (type : ℕ)

/-- What is said of an error, the parser's own words being those for an update. -/
def RecordError.text (update : String) : RecordError → String
  | missing name => "missing field " ++ String.ofList name
  | notUtf8 name => "field " ++ String.ofList name ++ " is not UTF-8"
  | invalid name error => "invalid " ++ String.ofList name ++ ": " ++ error.text
  | invalidUpdate => "invalid stage update: " ++ update
  | unknownType type => "unknown record type " ++ toString type

def field (record : Record) (name : Text) : Except RecordError ByteArray :=
  match value record name with
  | some bytes => .ok bytes
  | none => .error (.missing name)

def stringField (record : Record) (name : Text) : Except RecordError Text := do
  let bytes ← field record name
  match bytes.utf8Decode? with
  | some chars => .ok chars.toList
  | none => .error (.notUtf8 name)

/-- The value of a field from its decimal form. -/
def intField {α : Type} (parse : String → Except ParseIntError α) (record : Record)
    (name : Text) : Except RecordError α := do
  let text ← stringField record name
  match parse (String.ofList text) with
  | .ok n => .ok n
  | .error error => .error (.invalid name error)

def readU32 : Json → Option ℕ
  | .num n => if 0 ≤ n ∧ n < 2 ^ 32 then some n.toNat else none
  | _ => none

def readBool : Json → Option Bool
  | .bool b => some b
  | _ => none

def readStage : Json → Option Stage
  | .num n => if 0 ≤ n then Stage.tryFrom n.toNat else none
  | _ => none

def readStatus : Json → Option StageStatus
  | .num n =>
    [StageStatus.entered, .started, .completed, .wiped].find? fun s => (statusNumber s : ℤ) = n
  | _ => none

def once (names : List Text) (members : List (Text × Json)) : Bool :=
  decide ((members.map Prod.fst).filter (· ∈ names)).Nodup

def ServerTicks.ofJson : Json → Option ServerTicks
  | .obj members =>
    if once ["count".toList, "precise".toList] members then do
      let count ← readU32 (← Json.member "count".toList members)
      let precise ← readBool (← Json.member "precise".toList members)
      some ⟨count, precise⟩
    else none
  | _ => none

/-- Server ticks that are null, or not there at all, are none. -/
def readServerTicks (json : Option Json) : Option (Option ServerTicks) :=
  match json with
  | none | some .null => some none
  | some ticks => (ServerTicks.ofJson ticks).map some

def StageUpdate.ofJson : Json → Option StageUpdate
  | .obj members =>
    if once ["stage".toList, "status".toList, "accurate".toList, "recordedTicks".toList,
        "serverTicks".toList] members then do
      let stage ← readStage (← Json.member "stage".toList members)
      let status ← readStatus (← Json.member "status".toList members)
      let accurate ← readBool (← Json.member "accurate".toList members)
      let recordedTicks ← readU32 (← Json.member "recordedTicks".toList members)
      let serverTicks ← readServerTicks (Json.member "serverTicks".toList members)
      some ⟨stage, status, accurate, recordedTicks, serverTicks⟩
    else none
  | _ => none

def updateFromSlice (bytes : ByteArray) : Except RecordError StageUpdate :=
  match (bytes.utf8Decode?.bind fun chars => Json.parse chars.toList).bind
      StageUpdate.ofJson with
  | some update => .ok update
  | none => .error .invalidUpdate

def parseStreamRecord (record : Record) : Except RecordError ClientStageStream := do
  let clientId ← intField (parseSigned 64) record "clientId".toList
  let type ← intField (parseUnsigned 8) record "type".toList
  if type = 0 then
    pure (.events clientId (← field record "events".toList))
  else if type = 1 then
    pure (.stageEnd clientId (← updateFromSlice (← field record "update".toList)))
  else if type = 2 then
    pure (.metadata clientId (← intField (parseSigned 64) record "userId".toList)
      (← stringField record "pluginVersion".toList)
      (← stringField record "runeLiteVersion".toList))
  else .error (.unknownType type)

/-- The records of a stream in their order. Those that do not parse are skipped. -/
def readStageStream (records : List Record) : List ClientStageStream :=
  records.filterMap fun record => (parseStreamRecord record).toOption

/-! The entry that the types of the one language have for an entry of the other. -/

def StageUpdate.toUpdate (update : StageUpdate) : StageStream.StageUpdate :=
  { stage := update.stage.value
    status := statusNumber update.status
    accurate := update.accurate
    recordedTicks := update.recordedTicks
    serverTicks := update.serverTicks.map fun ticks => ⟨ticks.count, ticks.precise⟩ }

def ClientStageStream.toStream : ClientStageStream → StageStream.ClientStageStream
  | metadata clientId userId pluginVersion runeliteVersion =>
    .clientMetadata clientId userId pluginVersion runeliteVersion
  | events clientId bytes => .stageEvents clientId bytes
  | stageEnd clientId update => .stageEnd clientId update.toUpdate

end Reader

/-! ### Texts and numbers read back -/

lemma utf8Decode_utf8 (text : Text) : (utf8 text).utf8Decode? = some text.toArray := by
  rw [utf8, String.toByteArray_ofList, List.utf8Decode?_utf8Encode]

@[simp] lemma bufferText_utf8 (replaced : ByteArray → Text) (text : Text) :
    bufferText replaced (utf8 text) = text := by
  simp [bufferText, utf8Decode_utf8]

@[simp] lemma parseInt_numberText (replaced : ByteArray → Text) (n : ℤ) :
    JsText.parseInt (bufferText replaced (numberText n)) = some n := by
  rw [numberText, bufferText_utf8, JsText.parseInt_text]

lemma ofJson_toJson (update : StageUpdate) : StageUpdate.ofJson update.toJson = some update := by
  obtain ⟨stage, status, accurate, recordedTicks, serverTicks⟩ := update
  cases serverTicks <;> rfl

lemma stageStreamFromRecord_eq (replaced : ByteArray → Text) {record : Record} {t clientId : ℤ}
    (htype : value record "type".toList = some (numberText t))
    (hclient : value record "clientId".toList = some (numberText clientId)) :
    stageStreamFromRecord replaced record =
      if some t = some 0 then
        (value record "events".toList).bind fun bytes => some (.stageEvents clientId bytes)
      else if some t = some 1 then
        (value record "update".toList).bind fun bytes =>
          (Json.parse (bufferText replaced bytes)).bind fun json =>
            (StageUpdate.ofJson json).bind fun update => some (.stageEnd clientId update)
      else if some t = some 2 then
        (value record "userId".toList).bind fun bytes =>
          (JsText.parseInt (bufferText replaced bytes)).bind fun userId =>
            (value record "pluginVersion".toList).bind fun plugin =>
              (value record "runeLiteVersion".toList).bind fun runeLite =>
                some (.clientMetadata clientId userId (bufferText replaced plugin)
                  (bufferText replaced runeLite))
      else none := by
  unfold stageStreamFromRecord
  rw [htype, hclient]
  simp only [Option.bind_eq_bind, Option.bind_some, parseInt_numberText]

lemma stageStreamFromRecord_toRecord (replaced : ByteArray → Text) (entry : ClientStageStream) :
    stageStreamFromRecord replaced (stageStreamToRecord entry) = some entry := by
  cases entry with
  | stageEvents clientId events =>
    rw [stageStreamFromRecord_eq replaced (t := 0) rfl rfl, if_pos rfl]
    rfl
  | stageEnd clientId update =>
    have hupdate : value (stageStreamToRecord (.stageEnd clientId update)) "update".toList =
        some (utf8 update.toJson.stringify) := rfl
    rw [stageStreamFromRecord_eq replaced (t := 1) rfl rfl, if_neg (by decide), if_pos rfl,
      hupdate]
    simp only [Option.bind_some, bufferText_utf8, Json.parse_stringify, ofJson_toJson]
  | clientMetadata clientId userId pluginVersion runeLiteVersion =>
    have huser : value (stageStreamToRecord (.clientMetadata clientId userId pluginVersion
        runeLiteVersion)) "userId".toList = some (numberText userId) := rfl
    have hplugin : value (stageStreamToRecord (.clientMetadata clientId userId pluginVersion
        runeLiteVersion)) "pluginVersion".toList = some (utf8 pluginVersion) := rfl
    have hruneLite : value (stageStreamToRecord (.clientMetadata clientId userId pluginVersion
        runeLiteVersion)) "runeLiteVersion".toList = some (utf8 runeLiteVersion) := rfl
    rw [stageStreamFromRecord_eq replaced (t := 2) rfl rfl, if_neg (by decide),
      if_neg (by decide), if_pos rfl, huser, hplugin, hruneLite]
    simp only [Option.bind_some, parseInt_numberText, bufferText_utf8]

namespace Reader

lemma stringField_eq {record : Record} {name s : Text}
    (h : value record name = some (utf8 s)) : stringField record name = .ok s := by
  simp [stringField, field, h, utf8Decode_utf8, bind, Except.bind]

lemma parseSigned_intText {n : ℤ} (h : IsSafe n) :
    parseSigned 64 (String.ofList (JsText.intText n)) = .ok n := by
  have htext : ∀ m : ℕ, (toString m).toList = JsText.natText m := fun m => Nat.toList_repr
  unfold IsSafe at h
  unfold JsText.intText
  split_ifs with hneg
  · rw [← htext, parseSigned_neg (by omega)]
    exact congrArg Except.ok (by omega)
  · rw [← htext, String.ofList_toList, parseSigned_toString (by omega)]
    exact congrArg Except.ok (by omega)

lemma intField_signed {record : Record} {name : Text} {n : ℤ}
    (h : value record name = some (numberText n)) (hn : IsSafe n) :
    intField (parseSigned 64) record name = .ok n := by
  simp [intField, stringField_eq h, parseSigned_intText hn, bind, Except.bind]

lemma intField_unsigned {record : Record} {name : Text} {n : ℕ}
    (h : value record name = some (numberText n)) (hn : n < 2 ^ 8) :
    intField (parseUnsigned 8) record name = .ok n := by
  have htext : String.ofList (JsText.intText n) = toString n := by
    rw [JsText.intText, if_neg (by omega), Int.natAbs_natCast]
    exact Nat.toString_eq_ofList_toDigits.symm
  simp only [intField, stringField_eq h, bind, Except.bind, htext, parseUnsigned_toString hn]

lemma parseStreamRecord_eq {record : Record} {t : ℕ} {clientId : ℤ}
    (htype : value record "type".toList = some (numberText t)) (ht : t < 2 ^ 8)
    (hclient : value record "clientId".toList = some (numberText clientId))
    (hsafe : IsSafe clientId) :
    parseStreamRecord record =
      if t = 0 then
        (field record "events".toList).map fun bytes => .events clientId bytes
      else if t = 1 then
        (field record "update".toList).bind fun bytes =>
          (updateFromSlice bytes).map fun update => .stageEnd clientId update
      else if t = 2 then
        (intField (parseSigned 64) record "userId".toList).bind fun userId =>
          (stringField record "pluginVersion".toList).bind fun plugin =>
            (stringField record "runeLiteVersion".toList).map fun runeLite =>
              .metadata clientId userId plugin runeLite
      else .error (.unknownType t) := by
  unfold parseStreamRecord
  rw [intField_signed hclient hsafe, intField_unsigned htype ht]
  rfl

/-- The report of a stage's end has the types that the other language has for it. -/
structure Fits (update : StageStream.StageUpdate) : Prop where
  stage : 0 ≤ update.stage ∧ Stage.Declared update.stage.toNat
  status : ∃ status : StageStatus, update.status = statusNumber status
  recordedTicks : 0 ≤ update.recordedTicks ∧ update.recordedTicks < 2 ^ 32
  serverTicks : ∀ ticks ∈ update.serverTicks, 0 ≤ ticks.count ∧ ticks.count < 2 ^ 32

lemma readU32_eq_some {n : ℤ} {m : ℕ} :
    readU32 (.num n) = some m ↔ m < 2 ^ 32 ∧ (m : ℤ) = n := by
  rw [readU32]
  split_ifs with h
  · simp only [Option.some.injEq]
    omega
  · simp only [false_iff]
    omega

lemma readStage_eq_some {n : ℤ} {stage : Stage} :
    readStage (.num n) = some stage ↔ (stage.value : ℤ) = n := by
  rw [readStage]
  constructor
  · intro h
    split_ifs at h with hn
    unfold Stage.tryFrom at h
    split_ifs at h
    cases h
    exact Int.toNat_of_nonneg hn
  · rintro rfl
    rw [if_pos (Int.natCast_nonneg _), Int.toNat_natCast, Stage.tryFrom, dif_pos stage.declared]

lemma readStatus_eq_some {n : ℤ} {status : StageStatus} :
    readStatus (.num n) = some status ↔ (statusNumber status : ℤ) = n := by
  rw [readStatus]
  constructor
  · intro h
    simpa using List.find?_some h
  · rintro rfl
    cases status <;> rfl

lemma readServerTicks_eq_some {ticks : Option StageStream.ServerTicks}
    {read : Option ServerTicks} :
    readServerTicks (some ((ticks.map StageStream.ServerTicks.toJson).getD .null)) = some read ↔
      (∀ t ∈ read, t.count < 2 ^ 32) ∧
        read.map (fun t => (⟨t.count, t.precise⟩ : StageStream.ServerTicks)) = ticks := by
  cases ticks with
  | none => cases read <;> simp [readServerTicks]
  | some ticks =>
    obtain ⟨count, precise⟩ := ticks
    have hread : readServerTicks (some (StageStream.ServerTicks.toJson ⟨count, precise⟩)) =
        ((readU32 (.num count)).bind fun n => some ⟨n, precise⟩).map some := rfl
    rw [Option.map_some, Option.getD_some, hread]
    constructor
    · intro h
      obtain ⟨_, hbind, rfl⟩ := Option.map_eq_some_iff.mp h
      obtain ⟨n, hn, heq⟩ := Option.bind_eq_some_iff.mp hbind
      cases heq
      obtain ⟨hlt, rfl⟩ := readU32_eq_some.1 hn
      simpa using hlt
    · rintro ⟨hlt, heq⟩
      obtain ⟨t, rfl, ht⟩ := Option.map_eq_some_iff.mp heq
      cases ht
      rw [readU32_eq_some.2 ⟨hlt t rfl, rfl⟩]
      rfl

lemma ofJson_eq_some {update : StageStream.StageUpdate} {read : StageUpdate} :
    StageUpdate.ofJson update.toJson = some read ↔
      (read.recordedTicks < 2 ^ 32 ∧ ∀ t ∈ read.serverTicks, t.count < 2 ^ 32) ∧
        read.toUpdate = update := by
  obtain ⟨stage, status, accurate, recordedTicks, serverTicks⟩ := update
  have hread : StageUpdate.ofJson
      (StageStream.StageUpdate.toJson ⟨stage, status, accurate, recordedTicks, serverTicks⟩) =
      (readStage (.num stage)).bind fun stage => (readStatus (.num status)).bind fun status =>
        (readU32 (.num recordedTicks)).bind fun recordedTicks =>
          (readServerTicks (some ((serverTicks.map StageStream.ServerTicks.toJson).getD
            .null))).bind fun serverTicks =>
              some ⟨stage, status, accurate, recordedTicks, serverTicks⟩ := rfl
  simp only [hread, Option.bind_eq_some_iff, readStage_eq_some, readStatus_eq_some,
    readU32_eq_some, readServerTicks_eq_some]
  constructor
  · rintro ⟨s, hs, st, hst, n, ⟨hn, hn'⟩, ticks, ⟨hticks, hticks'⟩, heq⟩
    cases heq
    exact ⟨⟨hn, hticks⟩, by simp [StageUpdate.toUpdate, hs, hst, hn', hticks']⟩
  · rintro ⟨⟨hn, hticks⟩, heq⟩
    simp only [StageUpdate.toUpdate, StageStream.StageUpdate.mk.injEq] at heq
    obtain ⟨hs, hst, hacc, hn', hticks'⟩ := heq
    exact ⟨_, hs, _, hst, _, ⟨hn, hn'⟩, _, ⟨hticks, hticks'⟩, by rw [← hacc]⟩

lemma exists_toUpdate_iff {update : StageStream.StageUpdate} :
    (∃ read : StageUpdate, StageUpdate.ofJson update.toJson = some read ∧
      read.toUpdate = update) ↔ Fits update := by
  simp only [ofJson_eq_some]
  constructor
  · rintro ⟨read, ⟨⟨hn, hticks⟩, rfl⟩, -⟩
    refine ⟨⟨Int.natCast_nonneg _, ?_⟩, ⟨read.status, rfl⟩, ?_, ?_⟩
    · exact (Int.toNat_natCast read.stage.value).symm ▸ read.stage.declared
    · exact ⟨Int.natCast_nonneg _, Int.ofNat_lt.mpr hn⟩
    · intro ticks hmem
      obtain ⟨t, ht, rfl⟩ := Option.map_eq_some_iff.mp hmem
      exact ⟨Int.natCast_nonneg _, Int.ofNat_lt.mpr (hticks t ht)⟩
  · rintro ⟨⟨hstage, hdeclared⟩, ⟨status, hstatus⟩, ⟨hn, hlt⟩, hticks⟩
    let read : StageUpdate :=
      { stage := ⟨update.stage.toNat, hdeclared⟩
        status := status
        accurate := update.accurate
        recordedTicks := update.recordedTicks.toNat
        serverTicks := update.serverTicks.map fun ticks => ⟨ticks.count.toNat, ticks.precise⟩ }
    have hserver : (update.serverTicks.map fun ticks =>
        (⟨ticks.count.toNat, ticks.precise⟩ : ServerTicks)).map
          (fun t => (⟨t.count, t.precise⟩ : StageStream.ServerTicks)) = update.serverTicks := by
      rw [Option.map_map]
      cases hupdate : update.serverTicks with
      | none => rfl
      | some ticks =>
        obtain ⟨hcount, -⟩ := hticks ticks hupdate
        simp [Int.toNat_of_nonneg hcount]
    have hread : read.toUpdate = update := by
      simp only [StageUpdate.toUpdate, read, hserver, Int.toNat_of_nonneg hstage,
        Int.toNat_of_nonneg hn, ← hstatus]
    refine ⟨read, ⟨⟨?_, ?_⟩, hread⟩, hread⟩
    · show update.recordedTicks.toNat < 2 ^ 32
      omega
    · intro t ht
      obtain ⟨ticks, hmem, rfl⟩ := Option.map_eq_some_iff.mp ht
      have hbounds := hticks ticks hmem
      show ticks.count.toNat < 2 ^ 32
      omega

lemma updateFromSlice_toJson (update : StageStream.StageUpdate) :
    updateFromSlice (utf8 update.toJson.stringify) =
      (StageUpdate.ofJson update.toJson).elim (.error .invalidUpdate) .ok := by
  rw [updateFromSlice, utf8Decode_utf8]
  simp only [Option.bind_some, Json.parse_stringify]
  cases StageUpdate.ofJson update.toJson <;> rfl

end Reader

/-- What the other language has a value for. -/
def Known : ClientStageStream → Prop
  | .stageEnd _ update => Reader.Fits update
  | _ => True

lemma exists_stageEnd_iff {clientId : ℤ} (hclient : IsSafe clientId) (update : StageUpdate) :
    (∃ read, Reader.parseStreamRecord (stageStreamToRecord (.stageEnd clientId update)) = .ok read ∧
      read.toStream = .stageEnd clientId update) ↔ Reader.Fits update := by
  have hupdate : Reader.field (stageStreamToRecord (.stageEnd clientId update)) "update".toList =
      .ok (utf8 update.toJson.stringify) := rfl
  rw [Reader.parseStreamRecord_eq (t := 1) rfl (by norm_num) rfl hclient, if_neg (by decide),
    if_pos rfl, hupdate]
  refine Iff.trans ?_ Reader.exists_toUpdate_iff
  simp only [Except.bind, Reader.updateFromSlice_toJson]
  cases Reader.StageUpdate.ofJson update.toJson with
  | none => simp [Except.map]
  | some read => simp [Except.map, Reader.ClientStageStream.toStream]

/-- Both readers read a written record back as its entry exactly when the report in it, if it has
one, fits the types of the other language. -/
theorem read_alike_iff (replaced : ByteArray → Text) {entry : ClientStageStream}
    (h : Written entry) :
    (stageStreamFromRecord replaced (stageStreamToRecord entry) = some entry ∧
      ∃ read, Reader.parseStreamRecord (stageStreamToRecord entry) = .ok read ∧
        read.toStream = entry) ↔ Known entry := by
  rw [and_iff_right (stageStreamFromRecord_toRecord replaced entry)]
  cases h with
  | stageEvents hclient events =>
    rw [Reader.parseStreamRecord_eq (t := 0) rfl (by norm_num) rfl hclient, if_pos rfl]
    exact iff_of_true ⟨_, rfl, rfl⟩ trivial
  | stageEnd hclient hschema hover => exact exists_stageEnd_iff hclient _
  | @clientMetadata clientId userId hclient huser pluginVersion runeLiteVersion =>
    rw [Reader.parseStreamRecord_eq (t := 2) rfl (by norm_num) rfl hclient, if_neg (by decide),
      if_neg (by decide), if_pos rfl, Reader.intField_signed rfl huser,
      Reader.stringField_eq (s := pluginVersion) rfl,
      Reader.stringField_eq (s := runeLiteVersion) rfl]
    exact iff_of_true ⟨_, rfl, rfl⟩ trivial

/-- The end of a stage that took 46 ticks, of which a client reports another number for the
server. -/
def endReport (gameServerTicks : ℤ) : StageUpdateJson :=
  { stage := 10
    status := 2
    accurate := true
    recordedTicks := 46
    gameServerTicks := some gameServerTicks
    gameTicksPrecise := false }

lemma endReport_schema {n : ℤ} (h : IsSafe n) : StageUpdateSchema (endReport n) where
  stage := ⟨by norm_num [IsSafe, endReport], by norm_num [endReport]⟩
  status := ⟨by norm_num [IsSafe, endReport], by norm_num [endReport]⟩
  recordedTicks := ⟨by norm_num [IsSafe, endReport], by norm_num [endReport]⟩
  gameServerTicks := by
    rintro _ ⟨⟩
    exact h

theorem read_alike_endReport :
    (stageStreamFromRecord (fun _ => [])
        (stageStreamToRecord (.stageEnd 7 (handleChallengeUpdate (endReport 47)))) =
          some (.stageEnd 7 (handleChallengeUpdate (endReport 47))) ∧
      ∃ read, Reader.parseStreamRecord
          (stageStreamToRecord (.stageEnd 7 (handleChallengeUpdate (endReport 47)))) = .ok read ∧
        read.toStream = .stageEnd 7 (handleChallengeUpdate (endReport 47))) ↔
      Known (.stageEnd 7 (handleChallengeUpdate (endReport 47))) :=
  read_alike_iff (fun _ => []) (.stageEnd (by norm_num [IsSafe])
    (endReport_schema (by norm_num [IsSafe])) (Or.inl rfl))

/-- A count below zero is let in and written, and its record is skipped. -/
theorem negative_ticks_skipped :
    ¬∀ (replaced : ByteArray → Text) (entry : ClientStageStream), Written entry →
      stageStreamFromRecord replaced (stageStreamToRecord entry) = some entry ∧
        ∃ read, Reader.parseStreamRecord (stageStreamToRecord entry) = .ok read ∧
          read.toStream = entry := by
  intro h
  have hfits := (exists_stageEnd_iff (by norm_num [IsSafe]) _).mp (h (fun _ => [])
    (.stageEnd 7 (handleChallengeUpdate (endReport (-1))))
    (.stageEnd (by norm_num [IsSafe]) (endReport_schema (by norm_num [IsSafe])) (Or.inl rfl))).2
  have hcount := (hfits.serverTicks _ rfl).1
  norm_num [endReport] at hcount

end Blert.Redis.StageStream
