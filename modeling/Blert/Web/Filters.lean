import Blert.InsertionMap
import Blert.JsText

/-!
Search filters in a URL.

Every filter is written as a parameter and read back by its key. The last day of a search is
included by writing the day after it, which is read back as the last day.
-/

namespace Blert.Search

open JsText

/-- A number of which a text need not have one. -/
abbrev Number := Option ℤ

/-- The time of a date, in milliseconds, or of none. -/
abbrev Date := Number

def numberText : Number → List Char
  | some n => intText n
  | none => "NaN".toList

def startsWith (front value : List Char) : Bool := front.isPrefixOf value

def splitDots (part : List Char) : List Char → List (List Char)
  | '.' :: '.' :: cs => part :: splitDots [] cs
  | c :: cs => splitDots (part ++ [c]) cs
  | [] => [part]

/-! ### Parameters -/

inductive TobField
  | bloatDownCount | nylocasPreCapStalls | nylocasPostCapStalls | xarpusHealing | verzikRedsCount
  deriving DecidableEq

/-- The keys of parameters, of which some end in a text of their own. -/
inductive ParamKey
  | party | mode | scale | type | startTime | status | stage | options
  | split (suffix : List Char)
  | tobBloatDown (suffix : List Char)
  | tob (field : TobField)
  | mokMaxCompletedDelve
  | challengeCount | duration

inductive UrlParam
  | text (value : List Char)
  | list (values : List (List Char))

def UrlParam.value : Option UrlParam → Option (List Char)
  | none | some (.list []) => none
  | some (.text value) => some value
  | some (.list values) => some ([','].intercalate values)

abbrev UrlParams := List (ParamKey × Option UrlParam)

def queryString (params : UrlParams) : List (ParamKey × List Char) :=
  params.filterMap fun p => (UrlParam.value p.2).map (p.1, ·)

def numbers (values : List ℤ) : Option UrlParam := some (.list (values.map intText))

def numericList (value : List Char) : List ℤ := (value.splitOn ',').filterMap parseInt

/-! ### Filters of both searches -/

structure SharedFilters where
  party : List (List Char)
  mode : List ℤ
  scale : List ℤ
  type : List ℤ
  startDate : Option Date
  endDate : Option Date

def emptySharedFilters : SharedFilters :=
  { party := [], mode := [], scale := [], type := [], startDate := none, endDate := none }

section

variable (nextDay : ℤ → ℤ)

def Date.next (date : Date) : Date := date.map nextDay

def startTimeParam : Option Date → Option Date → Option UrlParam
  | some startDate, some endDate =>
    some (.text (numberText startDate ++ "..".toList ++ numberText (Date.next nextDay endDate)))
  | some startDate, none => some (.text (">=".toList ++ numberText startDate))
  | none, some endDate => some (.text ("<".toList ++ numberText (Date.next nextDay endDate)))
  | none, none => none

def sharedFiltersToUrlParams (filters : SharedFilters) : UrlParams :=
  [(.party, some (.list filters.party)),
    (.scale, numbers filters.scale),
    (.mode, numbers filters.mode),
    (.type, numbers filters.type),
    (.startTime, startTimeParam nextDay filters.startDate filters.endDate)]

end

/-- The filters with what a parameter says, if it is one of both searches. -/
def applySharedFilterParam (filters : SharedFilters) (key : ParamKey) (value : List Char) :
    Option SharedFilters :=
  match key with
  | .party => some { filters with party := (value.splitOn ',').map trim }
  | .mode => some { filters with mode := numericList value }
  | .scale => some { filters with scale := numericList value }
  | .type => some { filters with type := numericList value }
  | .startTime =>
    if startsWith ">=".toList value then
      some { filters with startDate := some (parseInt (value.drop 2)) }
    else if startsWith "<".toList value then
      some { filters with endDate := some (parseInt (value.drop 1)) }
    else
      let times := (splitDots [] value).map parseInt
      some { filters with
        startDate := some ((times[0]?).join)
        endDate := some ((times[1]?).join) }
  | _ => none

/-! ### Challenges -/

inductive Comparator
  | equal | lessThan | greaterThan | lessThanOrEqual | greaterThanOrEqual
  deriving DecidableEq

def serializeComparator : Comparator → List Char
  | .equal => "eq".toList
  | .lessThan => "lt".toList
  | .greaterThan => "gt".toList
  | .lessThanOrEqual => "le".toList
  | .greaterThanOrEqual => "ge".toList

def comparatorParam (filter : Comparator × ℤ) : UrlParam :=
  .text (serializeComparator filter.1 ++ intText filter.2)

def parseComparatorParam (value : List Char) : Option (Comparator × ℤ) :=
  let comparator :=
    if startsWith "eq".toList value then some Comparator.equal
    else if startsWith "le".toList value then some .lessThanOrEqual
    else if startsWith "ge".toList value then some .greaterThanOrEqual
    else if startsWith "lt".toList value then some .lessThan
    else if startsWith "gt".toList value then some .greaterThan
    else none
  comparator.bind fun comparator => (parseInt (value.drop 2)).map (comparator, ·)

structure TobFilters where
  bloatDowns : InsertionMap ℤ (Comparator × ℤ)
  scalars : TobField → Option (Comparator × ℤ)

structure SearchFilters extends SharedFilters where
  status : List ℤ
  stage : Option (Comparator × ℤ)
  splits : InsertionMap ℤ (Comparator × ℤ)
  tob : TobFilters
  maxCompletedDelve : Option (Comparator × ℤ)
  accurateSplits : Bool
  fullRecordings : Bool

def defaultSearchFilters : SearchFilters :=
  { emptySharedFilters with
    status := []
    stage := none
    splits := ∅
    tob := { bloatDowns := ∅, scalars := fun _ => none }
    maxCompletedDelve := none
    accurateSplits := true
    fullRecordings := false }

def tobScalarFields : List TobField :=
  [.bloatDownCount, .nylocasPreCapStalls, .nylocasPostCapStalls, .xarpusHealing, .verzikRedsCount]

def noAccurateSplits : List Char := "noAccurateSplits".toList

def fullRecordings : List Char := "fullRecordings".toList

def filtersToUrlParams (nextDay : ℤ → ℤ) (filters : SearchFilters) : UrlParams :=
  let options := (if filters.accurateSplits then [] else [noAccurateSplits]) ++
    if filters.fullRecordings then [fullRecordings] else []
  sharedFiltersToUrlParams nextDay filters.toSharedFilters ++
    [(.status, numbers filters.status),
      (.options, some (.list options)),
      (.stage, filters.stage.map comparatorParam)] ++
    filters.splits.entries.map (fun e => (.split (intText e.1), some (comparatorParam e.2))) ++
    filters.tob.bloatDowns.entries.map
      (fun e => (.tobBloatDown (intText e.1), some (comparatorParam e.2))) ++
    tobScalarFields.map (fun field =>
      (.tob field, (filters.tob.scalars field).map comparatorParam)) ++
    [(.mokMaxCompletedDelve, filters.maxCompletedDelve.map comparatorParam)]

/-- A comparator at a number in a map, where both can be read. -/
def setParam (m : InsertionMap ℤ (Comparator × ℤ)) (suffix value : List Char) :
    InsertionMap ℤ (Comparator × ℤ) :=
  match parseInt suffix, parseComparatorParam value with
  | some key, some parsed => m.set key parsed
  | _, _ => m

def applyOption (filters : SearchFilters) (option : List Char) : SearchFilters :=
  if option = noAccurateSplits then { filters with accurateSplits := false }
  else if option = fullRecordings then { filters with fullRecordings := true }
  else filters

def applyFilterParam (filters : SearchFilters) (key : ParamKey) (value : List Char) :
    SearchFilters :=
  match applySharedFilterParam filters.toSharedFilters key value with
  | some shared => { filters with toSharedFilters := shared }
  | none =>
    match key with
    | .status => { filters with status := numericList value }
    | .stage =>
      match parseComparatorParam value with
      | some parsed => { filters with stage := some parsed }
      | none => filters
    | .options => (value.splitOn ',').foldl applyOption filters
    | .split suffix => { filters with splits := setParam filters.splits suffix value }
    | .tobBloatDown suffix =>
      { filters with
        tob := { filters.tob with bloatDowns := setParam filters.tob.bloatDowns suffix value } }
    | .tob field =>
      match parseComparatorParam value with
      | some parsed =>
        { filters with
          tob := { filters.tob with
            scalars := Function.update filters.tob.scalars field (some parsed) } }
      | none => filters
    | .mokMaxCompletedDelve =>
      match parseComparatorParam value with
      | some parsed => { filters with maxCompletedDelve := some parsed }
      | none => filters
    | _ => filters

def contextFromUrlParams (params : List (ParamKey × List Char)) : SearchFilters :=
  params.foldl (fun filters p => applyFilterParam filters p.1 p.2) defaultSearchFilters

/-! ### Sessions -/

structure SessionSearchFilters extends SharedFilters where
  status : List ℤ
  minChallengeCount : Option Number
  maxChallengeCount : Option Number
  minDurationMinutes : Option Number
  maxDurationMinutes : Option Number

def emptyFilters : SessionSearchFilters :=
  { emptySharedFilters with
    status := []
    minChallengeCount := none
    maxChallengeCount := none
    minDurationMinutes := none
    maxDurationMinutes := none }

def rangeToUrlParam (scale upperBoundStep : ℤ) : Option Number → Option Number → Option UrlParam
  | some min, some max =>
    some (.text (numberText (min.map (· * scale)) ++ "..".toList ++
      numberText (max.map (· * scale + upperBoundStep))))
  | some min, none => some (.text ("ge".toList ++ numberText (min.map (· * scale))))
  | none, some max => some (.text ("le".toList ++ numberText (max.map (· * scale))))
  | none, none => none

def ceilDiv (n scale : ℤ) : ℤ := -(-n / scale)

def urlParamToRange (scale upperBoundStep : ℤ) (value : List Char) :
    Option Number × Option Number :=
  if startsWith ">=".toList value || startsWith "ge".toList value then
    (some ((parseInt (value.drop 2)).map (ceilDiv · scale)), none)
  else if startsWith "<=".toList value || startsWith "le".toList value then
    (none, some ((parseInt (value.drop 2)).map (· / scale)))
  else
    match splitDots [] value with
    | lo :: hi :: _ =>
      ((parseInt lo).map fun lo => some (ceilDiv lo scale),
        (parseInt hi).map fun hi => some ((hi - upperBoundStep) / scale))
    | _ => (none, none)

def sessionFiltersToUrlParams (nextDay : ℤ → ℤ) (filters : SessionSearchFilters) : UrlParams :=
  sharedFiltersToUrlParams nextDay filters.toSharedFilters ++
    [(.status, numbers filters.status),
      (.challengeCount, rangeToUrlParam 1 1 filters.minChallengeCount filters.maxChallengeCount),
      (.duration, rangeToUrlParam 60 1 filters.minDurationMinutes filters.maxDurationMinutes)]

def applySessionFilterParam (filters : SessionSearchFilters) (key : ParamKey)
    (value : List Char) : SessionSearchFilters :=
  match applySharedFilterParam filters.toSharedFilters key value with
  | some shared => { filters with toSharedFilters := shared }
  | none =>
    match key with
    | .status => { filters with status := numericList value }
    | .challengeCount =>
      let range := urlParamToRange 1 1 value
      { filters with minChallengeCount := range.1, maxChallengeCount := range.2 }
    | .duration =>
      let range := urlParamToRange 60 1 value
      { filters with minDurationMinutes := range.1, maxDurationMinutes := range.2 }
    | _ => filters

def sessionContextFromUrlParams (params : List (ParamKey × List Char)) : SessionSearchFilters :=
  params.foldl (fun filters p => applySessionFilterParam filters p.1 p.2) emptyFilters

/-! ### Texts of numbers -/

lemma mem_intText {n : ℤ} {c : Char} (h : c ∈ intText n) : c = '-' ∨ c.isDigit = true := by
  unfold intText at h
  split_ifs at h
  · rcases List.mem_cons.mp h with rfl | h
    · exact Or.inl rfl
    · exact Or.inr (isDigit_of_mem_natText h)
  · exact Or.inr (isDigit_of_mem_natText h)

lemma not_mem_intText {c : Char} (hc : c ≠ '-' ∧ c.isDigit = false) (n : ℤ) :
    c ∉ intText n := by
  intro h
  rcases mem_intText h with rfl | h
  · exact hc.1 rfl
  · rw [hc.2] at h
    exact Bool.false_ne_true h

lemma splitOn_value {values : List (List Char)} (hne : values ≠ []) (h : ∀ v ∈ values, ',' ∉ v) :
    ([','].intercalate values).splitOn ',' = values :=
  List.splitOn_intercalate ',' h hne

lemma numericList_value {values : List ℤ} (hne : values ≠ []) :
    numericList ([','].intercalate (values.map intText)) = values := by
  rw [numericList, splitOn_value (by simpa using hne), List.filterMap_map]
  · simp [parseInt_text]
  · intro v hv
    obtain ⟨n, -, rfl⟩ := List.mem_map.mp hv
    exact not_mem_intText (by decide) n

lemma splitDots_append {text : List Char} (h : '.' ∉ text) (part rest : List Char) :
    splitDots part (text ++ rest) = splitDots (part ++ text) rest := by
  induction text generalizing part with
  | nil => rw [List.nil_append, List.append_nil]
  | cons c text ih =>
    obtain ⟨hc, htext⟩ := not_or.mp (List.mem_cons.not.mp h)
    have hstep : splitDots part (c :: (text ++ rest)) = splitDots (part ++ [c]) (text ++ rest) := by
      rw [splitDots]
      rintro cs rfl
      exact absurd rfl hc
    rw [List.cons_append, hstep, ih htext, List.append_assoc]
    rfl

lemma splitDots_intText (m n : ℤ) :
    splitDots [] (intText m ++ "..".toList ++ intText n) = [intText m, intText n] := by
  have hdots : ∀ n, '.' ∉ intText n := not_mem_intText (by decide)
  have hlast := splitDots_append (hdots n) [] []
  rw [List.append_nil, List.nil_append] at hlast
  rw [List.append_assoc, splitDots_append (hdots m), List.nil_append]
  change splitDots (intText m) ('.' :: '.' :: intText n) = _
  rw [splitDots, hlast, splitDots]

lemma not_startsWith_intText {c : Char} (hc : c ≠ '-' ∧ c.isDigit = false) (front : List Char)
    (n : ℤ) (rest : List Char) : startsWith (c :: front) (intText n ++ rest) = false := by
  have hnot := not_mem_intText hc n
  have hne : intText n ≠ [] := by
    unfold intText
    split_ifs
    · exact List.cons_ne_nil _ _
    · exact natText_ne_nil _
  obtain ⟨d, ds, hd⟩ := List.exists_cons_of_ne_nil hne
  rw [hd] at hnot ⊢
  have hcd : c ≠ d := fun h => hnot (h ▸ List.mem_cons_self)
  simp [startsWith, List.isPrefixOf, hcd]

/-! ### Parameters are read -/

def readParam {σ : Type} (apply : σ → ParamKey → List Char → σ) (s : σ)
    (p : ParamKey × Option UrlParam) : σ :=
  (UrlParam.value p.2).elim s (apply s p.1)

lemma foldl_queryString {σ : Type} (apply : σ → ParamKey → List Char → σ) (s : σ)
    (params : UrlParams) :
    (queryString params).foldl (fun s p => apply s p.1 p.2) s =
      params.foldl (readParam apply) s := by
  induction params generalizing s with
  | nil => rfl
  | cons p params ih =>
    rw [List.foldl_cons, ← ih, queryString, readParam]
    cases h : UrlParam.value p.2 with
    | none => simp [h, queryString]
    | some v => simp [h, queryString]

def applyShared (s : SharedFilters) (key : ParamKey) (value : List Char) : SharedFilters :=
  (applySharedFilterParam s key value).getD s

/-- Names that a list can be joined of and split into. -/
def ValidNames (names : List (List Char)) : Prop :=
  ∀ name ∈ names, Trimmed name ∧ ',' ∉ name

def Date.Valid (date : Option Date) : Prop := date ≠ some none

structure SharedFilters.Valid (filters : SharedFilters) : Prop where
  party : ValidNames filters.party
  startDate : Date.Valid filters.startDate
  endDate : Date.Valid filters.endDate

lemma value_list {values : List (List Char)} (hne : values ≠ []) :
    UrlParam.value (some (.list values)) = some ([','].intercalate values) := by
  cases values with
  | nil => exact absurd rfl hne
  | cons v values => rfl

lemma readParam_numbers {σ : Type} (apply : σ → ParamKey → List Char → σ) (s : σ) (key : ParamKey)
    (values : List ℤ) :
    readParam apply s (key, numbers values) =
      if values = [] then s else apply s key ([','].intercalate (values.map intText)) := by
  split_ifs with h
  · rw [h]
    rfl
  · rw [readParam, numbers, value_list (by simpa using h)]
    rfl

lemma trim_names {names : List (List Char)} (h : ValidNames names) (hne : names ≠ []) :
    (([','].intercalate names).splitOn ',').map trim = names := by
  rw [splitOn_value hne fun name hname => (h name hname).2]
  calc names.map trim = names.map id :=
        List.map_congr_left fun name hname => (h name hname).1.trim_eq
    _ = names := List.map_id names

lemma readParam_startTime (nextDay : ℤ → ℤ) {s : SharedFilters} {startDate endDate : Option Date}
    (hs : s.startDate = none ∧ s.endDate = none) (hstart : Date.Valid startDate)
    (hend : Date.Valid endDate) :
    readParam applyShared s (.startTime, startTimeParam nextDay startDate endDate) =
      { s with startDate, endDate := endDate.map (Date.next nextDay) } := by
  obtain ⟨hs, hs'⟩ := hs
  have hge : ∀ (n : ℤ) (rest : List Char), startsWith ">=".toList (intText n ++ rest) = false :=
    not_startsWith_intText (by decide) ['=']
  have hlt : ∀ (n : ℤ) (rest : List Char), startsWith "<".toList (intText n ++ rest) = false :=
    not_startsWith_intText (by decide) []
  cases startDate with
  | none =>
    cases endDate with
    | none =>
      obtain ⟨_, _, _, _, _, _⟩ := s
      simp_all [readParam, startTimeParam, UrlParam.value]
    | some endDate =>
      obtain ⟨b, rfl⟩ := Option.ne_none_iff_exists'.mp fun h => hend (congrArg some h)
      have hread : applySharedFilterParam s .startTime ("<".toList ++ intText (nextDay b)) =
          some { s with endDate := some (parseInt (intText (nextDay b))) } := rfl
      rw [parseInt_text] at hread
      obtain ⟨_, _, _, _, _, _⟩ := s
      simp_all [readParam, startTimeParam, UrlParam.value, Date.next, numberText, applyShared]
  | some startDate =>
    obtain ⟨a, rfl⟩ := Option.ne_none_iff_exists'.mp fun h => hstart (congrArg some h)
    cases endDate with
    | none =>
      have hread : applySharedFilterParam s .startTime (">=".toList ++ intText a) =
          some { s with startDate := some (parseInt (intText a)) } := rfl
      rw [parseInt_text] at hread
      obtain ⟨_, _, _, _, _, _⟩ := s
      simp_all [readParam, startTimeParam, UrlParam.value, numberText, applyShared]
    | some endDate =>
      obtain ⟨b, rfl⟩ := Option.ne_none_iff_exists'.mp fun h => hend (congrArg some h)
      have hread : applySharedFilterParam s .startTime
          (intText a ++ "..".toList ++ intText (nextDay b)) =
            some { s with startDate := some (some a), endDate := some (some (nextDay b)) } := by
        rw [applySharedFilterParam, List.append_assoc, hge, hlt, ← List.append_assoc]
        simp only [Bool.false_eq_true, if_false, splitDots_intText, List.map_cons,
          parseInt_text]
        rfl
      simp only [readParam, startTimeParam, UrlParam.value, Date.next, numberText, applyShared,
        Option.map_some, Option.elim_some, hread, Option.getD_some]

lemma readParam_party {s : SharedFilters} (hs : s.party = []) {names : List (List Char)}
    (h : ValidNames names) :
    readParam applyShared s (.party, some (.list names)) = { s with party := names } := by
  by_cases hne : names = []
  · obtain ⟨_, _, _, _, _, _⟩ := s
    subst hne hs
    rfl
  · have hread : applyShared s .party ([','].intercalate names) =
        { s with party := (([','].intercalate names).splitOn ',').map trim } := rfl
    rw [trim_names h hne] at hread
    rw [readParam, value_list hne]
    exact hread

lemma foldl_sharedFilters (nextDay : ℤ → ℤ) {filters : SharedFilters} (h : filters.Valid) :
    (sharedFiltersToUrlParams nextDay filters).foldl (readParam applyShared) emptySharedFilters =
      { filters with endDate := filters.endDate.map (Date.next nextDay) } := by
  have hscale : ∀ s : SharedFilters, s.scale = [] →
      readParam applyShared s (.scale, numbers filters.scale) =
        { s with scale := filters.scale } := by
    intro s hs
    rw [readParam_numbers]
    split_ifs with hne
    · rw [hne, ← hs]
    · exact congrArg (fun scale => { s with scale }) (numericList_value hne)
  have hmode : ∀ s : SharedFilters, s.mode = [] →
      readParam applyShared s (.mode, numbers filters.mode) = { s with mode := filters.mode } := by
    intro s hs
    rw [readParam_numbers]
    split_ifs with hne
    · rw [hne, ← hs]
    · exact congrArg (fun mode => { s with mode }) (numericList_value hne)
  have htype : ∀ s : SharedFilters, s.type = [] →
      readParam applyShared s (.type, numbers filters.type) = { s with type := filters.type } := by
    intro s hs
    rw [readParam_numbers]
    split_ifs with hne
    · rw [hne, ← hs]
    · exact congrArg (fun type => { s with type }) (numericList_value hne)
  simp only [sharedFiltersToUrlParams, List.foldl_cons, List.foldl_nil]
  rw [readParam_party rfl h.party, hscale _ rfl, hmode _ rfl, htype _ rfl,
    readParam_startTime nextDay ⟨rfl, rfl⟩ h.startDate h.endDate]

/-- A reader that takes the filters of both searches first only changes them where it reads what is
written of them. -/
lemma foldl_shared {σ : Type} (get : σ → SharedFilters) (set : σ → SharedFilters → σ)
    (hget : ∀ s shared, get (set s shared) = shared)
    (hset : ∀ s a b, set (set s a) b = set s b) (hself : ∀ s, set s (get s) = s)
    (apply : σ → ParamKey → List Char → σ)
    (happly : ∀ s key v shared, applySharedFilterParam (get s) key v = some shared →
      apply s key v = set s shared)
    (nextDay : ℤ → ℤ) (shared : SharedFilters) (s : σ) :
    (sharedFiltersToUrlParams nextDay shared).foldl (readParam apply) s =
      set s ((sharedFiltersToUrlParams nextDay shared).foldl (readParam applyShared) (get s)) := by
  have hstep : ∀ (s : σ) (p : ParamKey × Option UrlParam),
      (∀ shared v, (applySharedFilterParam shared p.1 v).isSome) →
      readParam apply s p = set s (readParam applyShared (get s) p) := by
    intro s p hp
    rw [readParam, readParam]
    cases UrlParam.value p.2 with
    | none => exact (hself s).symm
    | some v =>
      obtain ⟨shared, hshared⟩ := Option.isSome_iff_exists.mp (hp (get s) v)
      simp only [Option.elim_some, applyShared, hshared, Option.getD_some]
      exact happly s p.1 v shared hshared
  have hstart : ∀ s v, (applySharedFilterParam s .startTime v).isSome := by
    intro s v
    rw [applySharedFilterParam]
    split_ifs <;> rfl
  simp only [sharedFiltersToUrlParams, List.foldl_cons, List.foldl_nil]
  rw [hstep _ (.party, _) fun _ _ => rfl, hstep _ (.scale, _) fun _ _ => rfl,
    hstep _ (.mode, _) fun _ _ => rfl, hstep _ (.type, _) fun _ _ => rfl,
    hstep _ (.startTime, _) hstart]
  simp only [hget, hset]

/-! ### Filters of challenges are read -/

lemma parseComparatorParam_eq (filter : Comparator × ℤ) :
    parseComparatorParam (serializeComparator filter.1 ++ intText filter.2) = some filter := by
  obtain ⟨comparator, n⟩ := filter
  have hread : parseComparatorParam (serializeComparator comparator ++ intText n) =
      (parseInt (intText n)).map (comparator, ·) := by
    cases comparator <;> rfl
  rw [hread, parseInt_text]
  rfl

lemma setParam_eq (m : InsertionMap ℤ (Comparator × ℤ)) (key : ℤ) (filter : Comparator × ℤ) :
    setParam m (intText key) (serializeComparator filter.1 ++ intText filter.2) =
      m.set key filter := by
  rw [setParam, parseInt_text, parseComparatorParam_eq]

lemma readParam_status {filters : SearchFilters} (h : filters.status = []) (status : List ℤ) :
    readParam applyFilterParam filters (.status, numbers status) = { filters with status } := by
  rw [readParam_numbers]
  split_ifs with hne
  · rw [hne, ← h]
  · exact congrArg (fun status => { filters with status }) (numericList_value hne)

lemma readParam_options {filters : SearchFilters} (haccurate : filters.accurateSplits = true)
    (hfull : filters.fullRecordings = false) (accurate full : Bool) :
    readParam applyFilterParam filters (.options, some (.list
        ((if accurate then [] else [noAccurateSplits]) ++ if full then [fullRecordings] else []))) =
      { filters with accurateSplits := accurate, fullRecordings := full } := by
  have hread : ∀ options : List (List Char), (∀ option ∈ options, ',' ∉ option) →
      readParam applyFilterParam filters (.options, some (.list options)) =
        options.foldl applyOption filters := by
    intro options hcomma
    by_cases hne : options = []
    · rw [hne]
      rfl
    · have happly : applyFilterParam filters .options ([','].intercalate options) =
          (([','].intercalate options).splitOn ',').foldl applyOption filters := rfl
      rw [splitOn_value hne hcomma] at happly
      rw [readParam, value_list hne]
      exact happly
  rw [hread]
  · obtain ⟨_, _, _, _, _, _, _, _⟩ := filters
    subst haccurate hfull
    cases accurate <;> cases full <;> simp [applyOption] <;> decide
  · cases accurate <;> cases full <;> decide

lemma readParam_stage {filters : SearchFilters} (h : filters.stage = none)
    (stage : Option (Comparator × ℤ)) :
    readParam applyFilterParam filters (.stage, stage.map comparatorParam) =
      { filters with stage } := by
  cases stage with
  | none =>
    obtain ⟨_, _, _, _, _, _, _, _⟩ := filters
    subst h
    rfl
  | some stage =>
    have hread := parseComparatorParam_eq stage
    simp only [readParam, Option.map_some, comparatorParam, UrlParam.value, Option.elim_some,
      applyFilterParam, applySharedFilterParam, hread]

lemma readParam_mok {filters : SearchFilters} (h : filters.maxCompletedDelve = none)
    (delve : Option (Comparator × ℤ)) :
    readParam applyFilterParam filters (.mokMaxCompletedDelve, delve.map comparatorParam) =
      { filters with maxCompletedDelve := delve } := by
  cases delve with
  | none =>
    obtain ⟨_, _, _, _, _, _, _, _⟩ := filters
    subst h
    rfl
  | some delve =>
    have hread := parseComparatorParam_eq delve
    simp only [readParam, Option.map_some, comparatorParam, UrlParam.value, Option.elim_some,
      applyFilterParam, applySharedFilterParam, hread]

lemma foldl_splits (filters : SearchFilters) (entries : List (ℤ × Comparator × ℤ)) :
    (entries.map fun e => (ParamKey.split (intText e.1), some (comparatorParam e.2))).foldl
        (readParam applyFilterParam) filters =
      { filters with splits := filters.splits.setAll entries } := by
  induction entries generalizing filters with
  | nil => rfl
  | cons e entries ih =>
    have hread : readParam applyFilterParam filters
        (.split (intText e.1), some (comparatorParam e.2)) =
          { filters with splits := filters.splits.set e.1 e.2 } := by
      rw [← setParam_eq]
      rfl
    rw [List.map_cons, List.foldl_cons, hread, ih]
    rfl

lemma foldl_bloatDowns (filters : SearchFilters) (entries : List (ℤ × Comparator × ℤ)) :
    (entries.map fun e => (ParamKey.tobBloatDown (intText e.1), some (comparatorParam e.2))).foldl
        (readParam applyFilterParam) filters =
      { filters with
        tob := { filters.tob with bloatDowns := filters.tob.bloatDowns.setAll entries } } := by
  induction entries generalizing filters with
  | nil => rfl
  | cons e entries ih =>
    have hread : readParam applyFilterParam filters
        (.tobBloatDown (intText e.1), some (comparatorParam e.2)) =
          { filters with
            tob := { filters.tob with bloatDowns := filters.tob.bloatDowns.set e.1 e.2 } } := by
      rw [← setParam_eq]
      rfl
    rw [List.map_cons, List.foldl_cons, hread, ih]
    rfl

lemma readParam_tob {filters : SearchFilters} {field : TobField}
    {scalar : Option (Comparator × ℤ)}
    (h : filters.tob.scalars field = none ∨ filters.tob.scalars field = scalar) :
    readParam applyFilterParam filters (.tob field, scalar.map comparatorParam) =
      { filters with
        tob := { filters.tob with
          scalars := Function.update filters.tob.scalars field scalar } } := by
  cases scalar with
  | none =>
    have hself : Function.update filters.tob.scalars field none = filters.tob.scalars := by
      rw [Function.update_eq_self_iff]
      exact (or_self_iff.mp h).symm
    rw [hself]
    rfl
  | some scalar =>
    have hread := parseComparatorParam_eq scalar
    simp only [readParam, Option.map_some, comparatorParam, UrlParam.value, Option.elim_some,
      applyFilterParam, applySharedFilterParam, hread]

lemma foldl_scalars {filters : SearchFilters} {fields : List TobField}
    {scalars : TobField → Option (Comparator × ℤ)}
    (h : ∀ field ∈ fields, filters.tob.scalars field = none ∨
      filters.tob.scalars field = scalars field) :
    (fields.map fun field => (ParamKey.tob field, (scalars field).map comparatorParam)).foldl
        (readParam applyFilterParam) filters =
      { filters with
        tob := { filters.tob with
          scalars := fun field =>
            if field ∈ fields then scalars field else filters.tob.scalars field } } := by
  induction fields generalizing filters with
  | nil => simp
  | cons field fields ih =>
    have hscalars : (fun field' => if field' ∈ fields then scalars field'
        else Function.update filters.tob.scalars field (scalars field) field') =
        fun field' => if field' ∈ field :: fields then scalars field'
          else filters.tob.scalars field' := by
      funext field'
      by_cases heq : field' = field
      · subst heq
        simp
      · simp [heq]
    rw [List.map_cons, List.foldl_cons, readParam_tob (h field List.mem_cons_self), ih]
    · exact congrArg
        (fun scalars => { filters with tob := { filters.tob with scalars } }) hscalars
    · intro field' hfield'
      change Function.update filters.tob.scalars field (scalars field) field' = none ∨
        Function.update filters.tob.scalars field (scalars field) field' = scalars field'
      by_cases heq : field' = field
      · subst heq
        exact Or.inr (Function.update_self ..)
      · rw [Function.update_of_ne heq]
        exact h field' (List.mem_cons_of_mem _ hfield')

lemma setAll_entries (m : InsertionMap ℤ (Comparator × ℤ)) :
    (∅ : InsertionMap ℤ (Comparator × ℤ)).setAll m.entries = m := by
  have h : ((∅ : InsertionMap ℤ (Comparator × ℤ)).setAll m.entries).entries = m.entries :=
    InsertionMap.entries_setAll m.nodup fun _ _ => rfl
  generalize (∅ : InsertionMap ℤ (Comparator × ℤ)).setAll m.entries = m' at h
  obtain ⟨l, hl⟩ := m
  obtain ⟨l', hl'⟩ := m'
  obtain rfl : l' = l := h
  rfl

lemma mem_tobScalarFields (field : TobField) : field ∈ tobScalarFields := by
  cases field <;> decide

/-- The filters of a search for challenges after the page is loaded again. -/
def reload (nextDay : ℤ → ℤ) (filters : SearchFilters) : SearchFilters :=
  contextFromUrlParams (queryString (filtersToUrlParams nextDay filters))

lemma reload_eq (nextDay : ℤ → ℤ) {filters : SearchFilters}
    (h : filters.toSharedFilters.Valid) :
    reload nextDay filters =
      { filters with endDate := filters.endDate.map (Date.next nextDay) } := by
  have hshared := foldl_shared SearchFilters.toSharedFilters
    (fun f shared => { f with toSharedFilters := shared }) (fun _ _ => rfl) (fun _ _ _ => rfl)
    (fun _ => rfl) applyFilterParam
    (fun f key v shared hread => by simp only [applyFilterParam, hread]) nextDay
    filters.toSharedFilters defaultSearchFilters
  have hdefault : defaultSearchFilters.toSharedFilters = emptySharedFilters := rfl
  rw [hdefault, foldl_sharedFilters nextDay h] at hshared
  simp only [reload, contextFromUrlParams, foldl_queryString, filtersToUrlParams, List.foldl_append,
    List.foldl_cons, List.foldl_nil]
  rw [hshared, readParam_status rfl, readParam_options rfl rfl, readParam_stage rfl, foldl_splits,
    foldl_bloatDowns, foldl_scalars fun _ _ => Or.inl rfl, readParam_mok rfl]
  have hscalars : (fun field => if field ∈ tobScalarFields then filters.tob.scalars field
      else none) = filters.tob.scalars :=
    funext fun field => if_pos (mem_tobScalarFields field)
  dsimp only [defaultSearchFilters]
  rw [setAll_entries, setAll_entries, hscalars]

/-! ### Filters of sessions are read -/

def Bounded (bound : Option Number) : Prop := bound ≠ some none

structure SessionSearchFilters.Valid (filters : SessionSearchFilters) : Prop
    extends SharedFilters.Valid filters.toSharedFilters where
  minChallengeCount : Bounded filters.minChallengeCount
  maxChallengeCount : Bounded filters.maxChallengeCount
  minDurationMinutes : Bounded filters.minDurationMinutes
  maxDurationMinutes : Bounded filters.maxDurationMinutes

lemma ceilDiv_mul {scale : ℤ} (hscale : 0 < scale) (n : ℤ) : ceilDiv (n * scale) scale = n := by
  rw [ceilDiv, ← neg_mul, Int.mul_ediv_cancel _ hscale.ne', neg_neg]

lemma urlParamToRange_eq {scale : ℤ} (hscale : 0 < scale) (step : ℤ) {min max : Option Number}
    (hmin : Bounded min) (hmax : Bounded max) {value : List Char}
    (h : UrlParam.value (rangeToUrlParam scale step min max) = some value) :
    urlParamToRange scale step value = (min, max) := by
  cases min with
  | none =>
    cases max with
    | none => exact absurd h (Option.some_ne_none value).symm
    | some max =>
      obtain ⟨b, rfl⟩ := Option.ne_none_iff_exists'.mp fun h => hmax (congrArg some h)
      obtain rfl : "le".toList ++ intText (b * scale) = value := Option.some_inj.mp h
      have hread : urlParamToRange scale step ("le".toList ++ intText (b * scale)) =
          (none, some ((parseInt (intText (b * scale))).map (· / scale))) := rfl
      rw [hread, parseInt_text, Option.map_some, Int.mul_ediv_cancel _ hscale.ne']
  | some min =>
    obtain ⟨a, rfl⟩ := Option.ne_none_iff_exists'.mp fun h => hmin (congrArg some h)
    cases max with
    | none =>
      obtain rfl : "ge".toList ++ intText (a * scale) = value := Option.some_inj.mp h
      have hread : urlParamToRange scale step ("ge".toList ++ intText (a * scale)) =
          (some ((parseInt (intText (a * scale))).map (ceilDiv · scale)), none) := rfl
      rw [hread, parseInt_text, Option.map_some, ceilDiv_mul hscale]
    | some max =>
      obtain ⟨b, rfl⟩ := Option.ne_none_iff_exists'.mp fun h => hmax (congrArg some h)
      obtain rfl : intText (a * scale) ++ "..".toList ++ intText (b * scale + step) = value :=
        Option.some_inj.mp h
      have hstart : ∀ c front, c ≠ '-' ∧ c.isDigit = false → startsWith (c :: front)
          (intText (a * scale) ++ "..".toList ++ intText (b * scale + step)) = false := by
        intro c front hc
        rw [List.append_assoc]
        exact not_startsWith_intText hc front _ _
      have hfront : ∀ front : List Char,
          front ∈ [">=".toList, "ge".toList, "<=".toList, "le".toList] → startsWith front
            (intText (a * scale) ++ "..".toList ++ intText (b * scale + step)) = false := by
        intro front hfront
        simp only [List.mem_cons, List.not_mem_nil, or_false] at hfront
        rcases hfront with rfl | rfl | rfl | rfl <;> exact hstart _ _ (by decide)
      rw [urlParamToRange, hfront _ (by simp), hfront _ (by simp), hfront _ (by simp),
        hfront _ (by simp), splitDots_intText]
      simp only [Bool.or_false, Bool.false_eq_true, if_false, parseInt_text,
        Option.map_some, ceilDiv_mul hscale, add_sub_cancel_right,
        Int.mul_ediv_cancel _ hscale.ne']

/-- The filters of a search for sessions after the page is loaded again. -/
def reloadSessions (nextDay : ℤ → ℤ) (filters : SessionSearchFilters) : SessionSearchFilters :=
  sessionContextFromUrlParams (queryString (sessionFiltersToUrlParams nextDay filters))

lemma readParam_challengeCount {filters : SessionSearchFilters}
    (h : filters.minChallengeCount = none ∧ filters.maxChallengeCount = none)
    {min max : Option Number} (hmin : Bounded min) (hmax : Bounded max) :
    readParam applySessionFilterParam filters (.challengeCount, rangeToUrlParam 1 1 min max) =
      { filters with minChallengeCount := min, maxChallengeCount := max } := by
  rw [readParam]
  cases hvalue : UrlParam.value (rangeToUrlParam 1 1 min max) with
  | none =>
    obtain ⟨rfl, rfl⟩ : min = none ∧ max = none := by
      cases min <;> cases max <;> simp_all [rangeToUrlParam, UrlParam.value]
    obtain ⟨_, _, _, _, _, _⟩ := filters
    obtain ⟨rfl, rfl⟩ := h
    rfl
  | some value =>
    have hread := urlParamToRange_eq one_pos 1 hmin hmax hvalue
    simp only [Option.elim_some, applySessionFilterParam, applySharedFilterParam, hread]

lemma readParam_duration {filters : SessionSearchFilters}
    (h : filters.minDurationMinutes = none ∧ filters.maxDurationMinutes = none)
    {min max : Option Number} (hmin : Bounded min) (hmax : Bounded max) :
    readParam applySessionFilterParam filters (.duration, rangeToUrlParam 60 1 min max) =
      { filters with minDurationMinutes := min, maxDurationMinutes := max } := by
  rw [readParam]
  cases hvalue : UrlParam.value (rangeToUrlParam 60 1 min max) with
  | none =>
    obtain ⟨rfl, rfl⟩ : min = none ∧ max = none := by
      cases min <;> cases max <;> simp_all [rangeToUrlParam, UrlParam.value]
    obtain ⟨_, _, _, _, _, _⟩ := filters
    obtain ⟨rfl, rfl⟩ := h
    rfl
  | some value =>
    have hread := urlParamToRange_eq (by norm_num) 1 hmin hmax hvalue
    simp only [Option.elim_some, applySessionFilterParam, applySharedFilterParam, hread]

lemma reloadSessions_eq (nextDay : ℤ → ℤ) {filters : SessionSearchFilters}
    (h : filters.Valid) :
    reloadSessions nextDay filters =
      { filters with endDate := filters.endDate.map (Date.next nextDay) } := by
  have hshared := foldl_shared SessionSearchFilters.toSharedFilters
    (fun f shared => { f with toSharedFilters := shared }) (fun _ _ => rfl) (fun _ _ _ => rfl)
    (fun _ => rfl) applySessionFilterParam
    (fun f key v shared hread => by simp only [applySessionFilterParam, hread]) nextDay
    filters.toSharedFilters emptyFilters
  have hempty : emptyFilters.toSharedFilters = emptySharedFilters := rfl
  rw [hempty, foldl_sharedFilters nextDay h.toValid] at hshared
  have hstatus : ∀ s : SessionSearchFilters, s.status = [] →
      readParam applySessionFilterParam s (.status, numbers filters.status) =
        { s with status := filters.status } := by
    intro s hs
    rw [readParam_numbers]
    split_ifs with hne
    · rw [hne, ← hs]
    · exact congrArg (fun status => { s with status }) (numericList_value hne)
  simp only [reloadSessions, sessionContextFromUrlParams, foldl_queryString,
    sessionFiltersToUrlParams, List.foldl_append, List.foldl_cons, List.foldl_nil]
  rw [hshared, hstatus _ rfl, readParam_challengeCount ⟨rfl, rfl⟩ h.minChallengeCount
    h.maxChallengeCount, readParam_duration ⟨rfl, rfl⟩ h.minDurationMinutes h.maxDurationMinutes]

/-! ### Loading a page again -/

lemma map_next_eq {nextDay : ℤ → ℤ} (hnext : ∀ d, d < nextDay d) {date : Option Date}
    (hdate : Date.Valid date) : date.map (Date.next nextDay) = date ↔ date = none := by
  rcases date with _ | _ | d
  · simp
  · exact absurd rfl hdate
  · simp [Date.next, (hnext d).ne']

def dayLater (d : ℤ) : ℤ := d + 86400000

def untilFirst : SearchFilters := { defaultSearchFilters with endDate := some (some 0) }

lemma valid_default : defaultSearchFilters.toSharedFilters.Valid :=
  ⟨fun _ h => absurd h List.not_mem_nil, (Option.some_ne_none _).symm, (Option.some_ne_none _).symm⟩

end Blert.Search
