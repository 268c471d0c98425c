import Blert.Bcf.Lax

/-!
Validating a document.

A document is checked against the schema of its version, and then against the semantic rules. For a
document that passes the schema, the rules report nothing exactly when it is sound, and a strict
document is judged as it was before it was read leniently.
-/

namespace Blert.Bcf

/-! ### Strict documents -/

namespace Lax

/-! ### The semantic rules -/

lemma validateActorType_eq_nil {path : String} {type : ActorType} {a : Action} :
    validateActorType path (some type) a.type = [] ↔ a.AllowedFor type := by
  have hdisjoint : a.type ∈ npcActions → a.type ∉ playerActions := by
    intro hnpc hplayer
    simp only [npcActions, playerActions, List.mem_cons, List.not_mem_nil, or_false] at hnpc hplayer
    rcases hnpc with h | h <;> rw [h] at hplayer <;> revert hplayer <;> decide
  simp only [validateActorType, Action.AllowedFor, List.contains_iff_mem]
  split_ifs with hnpc hplayer
  · simp only [false_iff]
    exact fun h => hnpc.2 (h.1 hnpc.1)
  · simp only [false_iff]
    exact fun h => hplayer.2 (h.2 hplayer.1)
  · simp only [true_iff]
    exact ⟨fun h => by_contra fun hne => hnpc ⟨h, hne⟩,
      fun h => by_contra fun hne => hplayer ⟨h, hne⟩⟩

lemma validateSpecCost_eq_nil {path : String} {a : Action} :
    validateSpecCost path a = [] ↔ a.SpecCostFits := by
  unfold validateSpecCost Action.SpecCostFits
  by_cases htype : a.type = "attack"
  · rw [if_pos htype]
    cases a.specCost with
    | none => simp
    | some cost => simp [htype]
  · rw [if_neg htype]
    simp [htype]

lemma validateTarget_eq_nil {table : ActorTable} {path : String} {a : Action} :
    validateTarget table path a = [] ↔
      ∀ target ∈ a.targetActorId, (table.actors target).isSome := by
  unfold validateTarget
  cases a.targetActorId with
  | none => simp
  | some target =>
    simp only [ite_nil_singleton_eq_nil, Option.mem_def, Option.some.injEq, forall_eq']

lemma validateActions_eq_nil {table : ActorTable} {actors : List Actor}
    (htable : table.Describes actors) {actor : Actor} (h : actor ∈ actors) {path : String}
    {actions : List Action} {k : ℕ} {types : List String} :
    validateActions table actor.id path k types actions = [] ↔
      (∀ a ∈ actions, a.type ∉ types) ∧
        ActionsFit (actors.map Actor.id) actor.type actions := by
  induction actions generalizing k types with
  | nil =>
    simp only [validateActions, List.not_mem_nil, false_implies, implies_true, true_and, true_iff]
    constructor <;> simp
  | cons a actions ih =>
    simp only [validateActions, List.append_eq_nil_iff, ite_singleton_eq_nil, htable.type actor h,
      validateActorType_eq_nil, validateSpecCost_eq_nil, validateTarget_eq_nil, htable.isSome, ih,
      and_assoc]
    have hlater : (∀ b ∈ actions, b.type ∉ a.type :: types) ↔
        a.type ∉ actions.map Action.type ∧ ∀ b ∈ actions, b.type ∉ types := by
      simp only [List.mem_cons, not_or, List.mem_map, not_exists, not_and]
      exact ⟨fun h => ⟨fun b hb => (h b hb).1, fun b hb => (h b hb).2⟩,
        fun h b hb => ⟨h.1 b hb, h.2 b hb⟩⟩
    rw [hlater]
    constructor
    · rintro ⟨hallowed, hnew, hcost, htarget, ⟨hfirst, htypes⟩, hfit⟩
      exact ⟨List.forall_mem_cons.mpr ⟨hnew, htypes⟩,
        List.nodup_cons.mpr ⟨hfirst, hfit.types⟩,
        List.forall_mem_cons.mpr ⟨hallowed, hfit.allowed⟩,
        List.forall_mem_cons.mpr ⟨hcost, hfit.specCost⟩,
        List.forall_mem_cons.mpr ⟨htarget, hfit.targets⟩⟩
    · rintro ⟨hnew, htypes, hallowed, hcost, htarget⟩
      obtain ⟨hfirst, htypes⟩ := List.nodup_cons.mp htypes
      rw [List.forall_mem_cons] at hnew hallowed hcost htarget
      exact ⟨hallowed.1, hnew.1, hcost.1, htarget.1, ⟨hfirst, hnew.2⟩,
        htypes, hallowed.2, hcost.2, htarget.2⟩

lemma validateCell_actions_eq_nil {table : ActorTable} {actors : List Actor}
    (htable : table.Describes actors) {path : String} {actor : Actor} (h : actor ∈ actors)
    {cell : Cell} (heq : actor.id = cell.actorId) :
    (match cell.actions with
      | some actions => validateActions table cell.actorId path 0 [] actions
      | none => []) = [] ↔
      ∀ actions ∈ cell.actions, ActionsFit (actors.map Actor.id) actor.type actions := by
  cases cell.actions with
  | none => simp
  | some actions =>
    rw [← heq, validateActions_eq_nil htable h]
    simp

lemma validateCell_eq_nil {table : ActorTable} {actors : List Actor}
    (htable : table.Describes actors) {path : String} {tick : ℤ} {cell : Cell} :
    validateCell table path tick cell = [] ↔ CellFits HasCellsAlive actors tick cell := by
  simp only [validateCell, List.append_eq_nil_iff, ite_nil_singleton_eq_nil, htable.isSome,
    validateLifetime_eq_nil, and_assoc]
  constructor
  · rintro ⟨hknown, hlife, hacts⟩
    obtain ⟨actor, h, heq⟩ := List.mem_map.mp hknown
    rw [← heq, htable.lifecycle actor h] at hlife
    exact ⟨actor, h, heq, hlife, (validateCell_actions_eq_nil htable h heq).mp hacts⟩
  · rintro ⟨actor, h, heq, hlife, hacts⟩
    refine ⟨heq ▸ List.mem_map_of_mem h, ?_, (validateCell_actions_eq_nil htable h heq).mpr hacts⟩
    rw [← heq, htable.lifecycle actor h]
    exact hlife

lemma validateCells_eq_nil {table : ActorTable} {actors : List Actor}
    (htable : table.Describes actors) {i : ℕ} {tick : ℤ} {cells : List Cell} {j : ℕ}
    {seen : List String} :
    validateCells table i tick j seen cells = [] ↔
      (∀ c ∈ cells, c.actorId ∉ seen) ∧ (cells.map Cell.actorId).Nodup ∧
        ∀ c ∈ cells, CellFits HasCellsAlive actors tick c := by
  induction cells generalizing j seen with
  | nil => simp [validateCells]
  | cons c cells ih =>
    simp only [validateCells, List.append_eq_nil_iff, ite_singleton_eq_nil, ih,
      validateCell_eq_nil htable, List.map_cons, List.nodup_cons, List.forall_mem_cons]
    have hseen : (∀ d ∈ cells, d.actorId ∉ c.actorId :: seen) ↔
        c.actorId ∉ cells.map Cell.actorId ∧ ∀ d ∈ cells, d.actorId ∉ seen := by
      simp only [List.mem_cons, not_or, List.mem_map, not_exists, not_and]
      exact ⟨fun h => ⟨fun d hd => (h d hd).1, fun d hd => (h d hd).2⟩,
        fun h d hd => ⟨h.1 d hd, h.2 d hd⟩⟩
    rw [hseen]
    tauto

lemma validateTickCells_eq_nil {table : ActorTable} {actors : List Actor}
    (htable : table.Describes actors) {ticks : List Tick} {i : ℕ} :
    validateTickCells table i ticks = [] ↔
      ∀ t ∈ ticks, (t.cells.map Cell.actorId).Nodup ∧
        ∀ c ∈ t.cells, CellFits HasCellsAlive actors t.tick c := by
  induction ticks generalizing i with
  | nil => simp [validateTickCells]
  | cons t ticks ih =>
    rw [validateTickCells, List.append_eq_nil_iff, validateCells_eq_nil htable, ih,
      List.forall_mem_cons]
    simp

def RowsOnce (doc : Document) : Prop :=
  ∀ rows ∈ doc.config.rowOrder, rows.Nodup ∧ rows ≠ []

lemma validateSemantics_eq_nil {doc : Document} (hrows : RowsOnce doc) :
    validateSemantics doc = [] ↔ Sound doc := by
  have harray : ∀ path item ticks,
      validateTickIndexedArray doc.config.totalTicks path item 0 [] none ticks = [] ↔
        TicksInOrder doc.config.totalTicks ticks := by
    intro path item ticks
    rw [validateTickIndexedArray_eq_nil (by simp) (by simp)]
    simp
  have hrules : validateSemantics doc = [] ↔
      (validateActors doc.config.totalTicks 0 {} doc.timeline.actors).2 = [] ∧
        (∀ rows ∈ doc.config.rowOrder, ∀ row ∈ rows,
          ((validateActors doc.config.totalTicks 0 {} doc.timeline.actors).1.actors row).isSome) ∧
        validateDisplayRange doc.config = [] ∧
        TicksInOrder doc.config.totalTicks (doc.timeline.ticks.map Tick.tick) ∧
        validateTickCells (validateActors doc.config.totalTicks 0 {} doc.timeline.actors).1 0
          doc.timeline.ticks = [] ∧
        ∀ phases ∈ doc.timeline.phases,
          TicksInOrder doc.config.totalTicks (phases.map Phase.tick) := by
    rw [← optionalRowOrder_eq_nil, ← harray "/timeline/ticks" "tick"]
    simp only [← harray "/timeline/phases" "phase tick"]
    rw [← optionalPhases_eq_nil]
    constructor
    · intro h
      simp only [validateSemantics, List.append_eq_nil_iff, and_assoc] at h
      exact h
    · intro h
      simp only [validateSemantics, List.append_eq_nil_iff, and_assoc]
      exact h
  rw [hrules, validateActors_eq_nil, validateDisplayRange_eq_nil]
  constructor
  · rintro ⟨⟨-, hids, hlives⟩, hrow, hrange, hticks, hcells, hphases⟩
    have htable := validateActors_describes doc.config.totalTicks hids
    rw [validateTickCells_eq_nil htable] at hcells
    refine ⟨hids, hlives, fun rows hr => ?_, hrange, hticks, fun t ht => (hcells t ht).1,
      fun t ht => (hcells t ht).2, hphases⟩
    obtain ⟨honce, hsome⟩ := hrows rows hr
    exact ⟨honce, hsome, fun row h => (htable.isSome row).mp (hrow rows hr row h)⟩
  · rintro ⟨hids, hlives, hrow, hrange, hticks, hcellIds, hcells, hphases⟩
    have htable := validateActors_describes doc.config.totalTicks hids
    refine ⟨⟨fun _ _ => rfl, hids, hlives⟩, fun rows hr row h => ?_, hrange, hticks, ?_, hphases⟩
    · exact (htable.isSome row).mpr ((hrow rows hr).2.2 row h)
    · rw [validateTickCells_eq_nil htable]
      exact fun t ht => ⟨hcellIds t ht, hcells t ht⟩

/-! ### Versions and schemas -/

inductive BCFVersion
  | v1_0
  deriving DecidableEq

def BCFVersion.text : BCFVersion → String
  | v1_0 => "1.0"

def SUPPORTED_VERSIONS : List BCFVersion := [.v1_0]

/-- The number that decimal digits write, of which there is at least one. -/
def readNumber (digits : List Char) : Option ℕ :=
  if digits ≠ [] ∧ digits.all Char.isDigit then some (Nat.ofDigitChars 10 digits 0) else none

def parseVersion (version : String) : Option (ℕ × ℕ) :=
  let major := version.toList.takeWhile (· ≠ '.')
  match version.toList.dropWhile (· ≠ '.') with
  | [] => none
  | _ :: minor =>
    match readNumber major, readNumber minor with
    | some major, some minor => some (major, minor)
    | _, _ => none

def LATEST_BY_MAJOR_VERSION : ℕ → Option BCFVersion :=
  SUPPORTED_VERSIONS.foldl (fun latest version =>
    match parseVersion version.text with
    | none => latest
    | some (major, minor) =>
      let later :=
        match latest major with
        | none => true
        | some current => ((parseVersion current.text).map Prod.snd).all (· < minor)
      if later then Function.update latest major (some version) else latest) fun _ => none

structure ValidateOptions where
  /-- Expected version. -/
  version : Option BCFVersion := none
  strict : Option Bool := none

def ValidateOptions.isStrict (options : ValidateOptions) : Bool :=
  options.strict.getD options.version.isSome

inductive ErrorType
  | schema | semantic
  deriving DecidableEq

inductive ValidationResult
  | valid (document : Document) (version : BCFVersion)
  | invalid (type : ErrorType) (errors : List ValidationError)
  deriving DecidableEq

def detectKnownVersion (version : String) : Option BCFVersion :=
  SUPPORTED_VERSIONS.find? (·.text = version)

/-- The version of a document. A later minor version is read leniently as the latest known one of
its major version, unless a version is expected. -/
def detectVersion (options : ValidateOptions) (documentVersion : String) : Option BCFVersion :=
  let known := detectKnownVersion documentVersion
  if options.isStrict = false ∧ options.version = none ∧ known = none then
    (parseVersion documentVersion).bind fun parsed => LATEST_BY_MAJOR_VERSION parsed.1
  else known

def selectVersion (options : ValidateOptions) (documentVersion : String) :
    Except String BCFVersion :=
  match options.version, detectVersion options documentVersion with
  | some expected, none =>
    .error (s!"Document version \"{documentVersion}\" is not supported. " ++
      s!"Expected \"{expected.text}\".")
  | some expected, some detected =>
    if detected = expected then .ok expected
    else
      .error (s!"Document version \"{detected.text}\" does not match expected version " ++
        s!"\"{expected.text}\".")
  | none, some detected => .ok detected
  | none, none =>
    .error (s!"Unsupported BCF version: \"{documentVersion}\". Supported versions: " ++
      ", ".intercalate (SUPPORTED_VERSIONS.map BCFVersion.text))

/-- Validates a document. `schemaErrors` are the errors that the schema of a version finds, strictly
or leniently. -/
def validate (schemaErrors : BCFVersion → Bool → Document → List ValidationError)
    (doc : Document) (options : ValidateOptions) : ValidationResult :=
  match selectVersion options doc.version with
  | .error message => .invalid .schema [⟨"/version", message⟩]
  | .ok version =>
    let errors := schemaErrors version options.isStrict doc
    if errors ≠ [] then .invalid .schema errors
    else
      let errors := validateSemantics doc
      if errors ≠ [] then .invalid .semantic errors else .valid doc version

def isFirstMajor (version : String) : Bool :=
  match version.toList with
  | '1' :: '.' :: minor => !minor.isEmpty && minor.all Char.isDigit
  | _ => false

/-- What the schema of a document says of its version, its length and its rows. -/
structure SchemaFits (strict : Bool) (doc : Document) : Prop where
  version : if strict then doc.version = "1.0" else isFirstMajor doc.version = true
  totalTicks : 1 ≤ doc.config.totalTicks
  rowOrder : RowsOnce doc

instance (strict : Bool) (doc : Document) : Decidable (SchemaFits strict doc) :=
  decidable_of_iff
    ((if strict then doc.version = "1.0" else isFirstMajor doc.version = true) ∧
      1 ≤ doc.config.totalTicks ∧ ∀ rows ∈ doc.config.rowOrder, rows.Nodup ∧ rows ≠ [])
    ⟨fun h => ⟨h.1, h.2.1, h.2.2⟩, fun h => ⟨h.version, h.totalTicks, h.rowOrder⟩⟩

/-! ### Validation -/

lemma detectKnownVersion_eq (version : String) :
    detectKnownVersion version = if version = "1.0" then some .v1_0 else none := by
  unfold detectKnownVersion SUPPORTED_VERSIONS
  by_cases h : version = "1.0"
  · rw [if_pos h, h]
    rfl
  · have hne : ¬BCFVersion.v1_0.text = version := fun heq => h heq.symm
    simp [h, hne]

lemma latest_of_isFirstMajor {version : String} (h : isFirstMajor version = true) :
    (parseVersion version).bind (fun parsed => LATEST_BY_MAJOR_VERSION parsed.1) = some .v1_0 := by
  have hlatest : LATEST_BY_MAJOR_VERSION 1 = some .v1_0 := by decide
  unfold isFirstMajor at h
  split at h
  · rename_i minor htext
    rw [Bool.and_eq_true, Bool.not_eq_true', List.isEmpty_eq_false_iff] at h
    have hmajor : readNumber ['1'] = some 1 := by decide
    have hminor : readNumber minor = some (Nat.ofDigitChars 10 minor 0) := if_pos h
    have hparsed : parseVersion version = some (1, Nat.ofDigitChars 10 minor 0) := by
      unfold parseVersion
      rw [htext, List.takeWhile_cons_of_pos (by decide), List.takeWhile_cons_of_neg (by decide),
        List.dropWhile_cons_of_pos (by decide), List.dropWhile_cons_of_neg (by decide)]
      simp only [hmajor, hminor]
    rw [hparsed]
    exact hlatest
  · cases h

lemma detectVersion_eq {options : ValidateOptions} {doc : Document}
    (h : SchemaFits options.isStrict doc) :
    detectVersion options doc.version =
      if options.version = none ∨ doc.version = "1.0" then some .v1_0 else none := by
  unfold detectVersion
  dsimp only
  rw [detectKnownVersion_eq]
  by_cases hknown : doc.version = "1.0"
  · have hnot : ¬(options.isStrict = false ∧ options.version = none ∧
        (some BCFVersion.v1_0 : Option BCFVersion) = none) := nofun
    rw [if_pos hknown, if_neg hnot, if_pos (Or.inr hknown)]
  · rw [if_neg hknown]
    by_cases hversion : options.version = none
    · have hfirst := h.version
      cases hstrict : options.isStrict with
      | true =>
        rw [hstrict, if_pos rfl] at hfirst
        exact absurd hfirst hknown
      | false =>
        rw [hstrict, if_neg Bool.false_ne_true] at hfirst
        rw [if_pos ⟨rfl, hversion, rfl⟩, if_pos (Or.inl hversion)]
        exact latest_of_isFirstMajor hfirst
    · have hneither : ¬(options.version = none ∨ doc.version = "1.0") := by
        rintro (h | h)
        · exact hversion h
        · exact hknown h
      rw [if_neg fun hall => hversion hall.2.1, if_neg hneither]

lemma selectVersion_eq {options : ValidateOptions} {doc : Document}
    (h : SchemaFits options.isStrict doc) :
    (∃ version, selectVersion options doc.version = .ok version) ↔
      ∀ expected ∈ options.version, doc.version = expected.text := by
  unfold selectVersion
  rw [detectVersion_eq h]
  cases options.version with
  | none => exact ⟨fun _ => nofun, fun _ => ⟨.v1_0, rfl⟩⟩
  | some expected =>
    cases expected with
    | v1_0 =>
      by_cases hknown : doc.version = "1.0"
      · rw [if_pos (Or.inr hknown)]
        refine ⟨fun _ expected hexpected => ?_, fun _ => ⟨.v1_0, rfl⟩⟩
        cases hexpected
        exact hknown
      · have hneither : ¬((some BCFVersion.v1_0 : Option BCFVersion) = none ∨
            doc.version = "1.0") := by
          rintro (h | h)
          · cases h
          · exact hknown h
        rw [if_neg hneither]
        exact ⟨nofun, fun hall => absurd (hall .v1_0 rfl) hknown⟩

variable {schemaErrors : BCFVersion → Bool → Document → List ValidationError}

/-- **The validator accepts exactly the sound documents**: a document that passes its schema is
valid exactly when the version asked for, if any, is its own and it keeps the rules, with the cells
of an NPC within its lifetime. -/
theorem validate_valid_iff
    (hschema : ∀ version strict doc, schemaErrors version strict doc = [] → SchemaFits strict doc)
    {options : ValidateOptions} {doc : Document}
    (hpasses : ∀ version, schemaErrors version options.isStrict doc = []) :
    (∃ version, validate schemaErrors doc options = .valid doc version) ↔
      (∀ expected ∈ options.version, doc.version = expected.text) ∧ Sound doc := by
  have hfits := hschema .v1_0 options.isStrict doc (hpasses .v1_0)
  rw [← selectVersion_eq hfits, ← validateSemantics_eq_nil hfits.rowOrder]
  unfold validate
  cases selectVersion options doc.version with
  | error message => simp
  | ok version =>
    simp only [hpasses, ne_eq, not_true_eq_false, if_false, ite_not]
    by_cases hsound : validateSemantics doc = []
    · simp [hsound]
    · simp [hsound]

/-! ### The rules as they are written -/

/-- A death is later than a spawn when both are given. -/
def LifecycleWritten (totalTicks : ℤ) : Actor → Prop
  | .player _ _ => True
  | .npc _ _ _ spawnTick deathTick =>
    (∀ spawn ∈ spawnTick, 0 ≤ spawn ∧ spawn < totalTicks) ∧
      (∀ death ∈ deathTick, 0 ≤ death ∧ death < totalTicks) ∧
      ∀ spawn ∈ spawnTick, ∀ death ∈ deathTick, spawn < death

/-- An NPC has actions only while it lives. -/
def ActsAlive (actor : Actor) (tick : ℤ) (cell : Cell) : Prop :=
  ∀ actions ∈ cell.actions, actions ≠ [] → ∀ l ∈ actor.lifecycle, l.Covers tick

def Written (doc : Document) : Prop := Keeps LifecycleWritten ActsAlive doc

lemma lifecycleWritten_iff {totalTicks : ℤ} (htotal : 1 ≤ totalTicks) {actor : Actor} :
    LivesWithin totalTicks actor ↔ LifecycleWritten totalTicks actor ∧
      ∀ l ∈ actor.lifecycle, ∀ death ∈ l.deathTick, l.spawnTick < death := by
  unfold LivesWithin NpcLifecycle.Within
  cases actor with
  | player id name => simp [Actor.lifecycle, LifecycleWritten]
  | npc id name npcId spawnTick deathTick =>
    simp only [Actor.lifecycle, LifecycleWritten, Option.mem_def, Option.some.injEq, forall_eq']
    cases spawnTick <;> cases deathTick <;> simp <;> omega

/-- **The validator asks for more than the rules as they are written** in two ways: NPCs die after
tick 0 when they are there from the start, and cells without actions are within a lifetime, too. -/
theorem accepts_iff_written {doc : Document} (hrows : RowsOnce doc)
    (htotal : 1 ≤ doc.config.totalTicks) :
    validateSemantics doc = [] ↔ Written doc ∧
      (∀ actor ∈ doc.timeline.actors, ∀ l ∈ actor.lifecycle, ∀ death ∈ l.deathTick,
        l.spawnTick < death) ∧
      ∀ tick ∈ doc.timeline.ticks, ∀ cell ∈ tick.cells, ∀ actor ∈ doc.timeline.actors,
        actor.id = cell.actorId → ∀ l ∈ actor.lifecycle, l.Covers tick.tick := by
  rw [validateSemantics_eq_nil hrows]
  constructor
  · intro h
    refine ⟨⟨h.ids, fun actor hactor => ?_, h.rowOrder, h.range, h.ticks, h.cellIds, ?_, h.phases⟩,
      fun actor hactor => ?_, ?_⟩
    · exact ((lifecycleWritten_iff htotal).mp (h.lifecycles actor hactor)).1
    · intro tick htick cell hcell
      obtain ⟨actor, hactor, hid, hlives, hfit⟩ := h.cells tick htick cell hcell
      exact ⟨actor, hactor, hid, fun _ _ _ => hlives, hfit⟩
    · exact ((lifecycleWritten_iff htotal).mp (h.lifecycles actor hactor)).2
    · intro tick htick cell hcell actor hactor hid
      obtain ⟨other, hother, hsame, hlives, -⟩ := h.cells tick htick cell hcell
      obtain rfl := List.inj_on_of_nodup_map h.ids hother hactor (hsame.trans hid.symm)
      exact hlives
  · rintro ⟨h, hdeaths, hlives⟩
    refine ⟨h.ids, fun actor hactor => ?_, h.rowOrder, h.range, h.ticks, h.cellIds, ?_, h.phases⟩
    · exact (lifecycleWritten_iff htotal).mpr ⟨h.lifecycles actor hactor, hdeaths actor hactor⟩
    · intro tick htick cell hcell
      obtain ⟨actor, hactor, hid, -, hfit⟩ := h.cells tick htick cell hcell
      exact ⟨actor, hactor, hid, hlives tick htick cell hcell actor hactor hid, hfit⟩

/-- A schema that checks the version, the length and the rows. -/
def schemaCheck (_ : BCFVersion) (strict : Bool) (doc : Document) : List ValidationError :=
  if SchemaFits strict doc then [] else [⟨"", "must match the schema"⟩]

lemma schemaCheck_eq_nil {version : BCFVersion} {strict : Bool} {doc : Document} :
    schemaCheck version strict doc = [] ↔ SchemaFits strict doc :=
  ite_nil_singleton_eq_nil

/-- An NPC that attacks a player, and does something that is not known yet. -/
def attackDocument : Document where
  version := "1.4"
  config := ⟨4, some ["p1"], none, none⟩
  timeline :=
    ⟨[.player "p1" "Player", .npc "boss" "Boss" 8370 (some 1) none],
      [⟨2, [{ actorId := "boss",
              actions := some [{ type := "npcAttack", targetActorId := some "p1" },
                { type := "npcEnrage" }] }]⟩], none⟩

lemma attackDocument_sound : Sound attackDocument := by
  have hrows : RowsOnce attackDocument := by
    intro rows hrows
    cases hrows
    decide
  rw [← validateSemantics_eq_nil hrows]
  decide

theorem attackDocument_valid :
    ∃ version, validate schemaCheck attackDocument {} = .valid attackDocument version :=
  (validate_valid_iff (fun _ _ _ => schemaCheck_eq_nil.1)
    (fun _ => schemaCheck_eq_nil.2 (by decide))).mpr ⟨nofun, attackDocument_sound⟩

theorem attackDocument_written : Written attackDocument :=
  ((accepts_iff_written (fun rows hrows => by cases hrows; decide) (by decide)).mp (by decide)).1

/-- An NPC that spawns on tick 2 and has an empty cell on tick 0. -/
def emptyCellDocument : Document where
  version := "1.0"
  config := ⟨4, none, none, none⟩
  timeline := ⟨[.npc "boss" "Boss" 8370 (some 2) none], [⟨0, [{ actorId := "boss" }]⟩], none⟩

/-- An NPC that is there from the start and dies on tick 0. -/
def deathAtStartDocument : Document where
  version := "1.0"
  config := ⟨4, none, none, none⟩
  timeline := ⟨[.npc "boss" "Boss" 8370 none (some 0)], [], none⟩

/-- Both documents keep the rules as they are written, and are rejected. -/
theorem written_documents_rejected :
    (SchemaFits false emptyCellDocument ∧ Written emptyCellDocument ∧
      ∀ version, validate schemaCheck emptyCellDocument {} ≠ .valid emptyCellDocument version) ∧
    SchemaFits false deathAtStartDocument ∧ Written deathAtStartDocument ∧
      ∀ version,
        validate schemaCheck deathAtStartDocument {} ≠ .valid deathAtStartDocument version := by
  have hone : ∀ version, version = BCFVersion.v1_0 := fun version => by cases version; rfl
  refine ⟨⟨by decide, ?_, fun version => hone version ▸ by decide⟩,
    by decide, ?_, fun version => hone version ▸ by decide⟩
  · refine ⟨by decide, ?_, nofun, ⟨nofun, nofun, nofun⟩, ⟨by decide, by decide⟩, by decide, ?_,
      nofun⟩
    · intro actor hactor
      obtain rfl := List.mem_singleton.mp hactor
      exact ⟨by decide, nofun, nofun⟩
    · intro tick htick cell hcell
      obtain rfl := List.mem_singleton.mp htick
      obtain rfl := List.mem_singleton.mp hcell
      exact ⟨_, List.mem_cons_self, rfl, nofun, nofun⟩
  · refine ⟨by decide, ?_, nofun, ⟨nofun, nofun, nofun⟩, ⟨List.Pairwise.nil, nofun⟩, nofun, nofun,
      nofun⟩
    intro actor hactor
    obtain rfl := List.mem_singleton.mp hactor
    exact ⟨nofun, by decide, nofun⟩

end Lax

end Blert.Bcf
