import Blert.Keyset
import Blert.Web.Conditions
import Mathlib

/-!
Paging through the results of a challenge search.

The page before or after the one shown is asked for by the sort values of its first or last
challenge. They are turned into a condition on the sorted columns, and a page before is read in
reversed order. A null among the values does not carry on forwards: the condition compares the
column with null for equality, and the rest of the results is lost.
-/

namespace Blert.Search

open Keyset

/-! ### Challenges -/

inductive SortableField
  | startTime | type | status | stage | mode | scale | challengeTicks | overallTicks | totalDeaths
  | splits (split : ℕ)
  | tobXarpusHealing
  | mokMaxCompletedDelve
  deriving DecidableEq

/-- A stored challenge, with the splits and statistics it is joined with. Of the Theatre's
statistics it has the healing of Xarpus, and of Mokhaiotl's the last delve completed. -/
structure Challenge where
  startTime : ℤ
  type : ℤ
  status : ℤ
  stage : ℤ
  mode : ℤ
  scale : ℤ
  challengeTicks : ℤ
  overallTicks : Option ℤ
  totalDeaths : ℤ
  splits : ℕ → Option ℤ
  tobStats : Option (Option ℤ)
  mokhaiotlStats : Option ℤ

def column (c : Challenge) : SortableField → Option ℤ
  | .startTime => some c.startTime
  | .type => some c.type
  | .status => some c.status
  | .stage => some c.stage
  | .mode => some c.mode
  | .scale => some c.scale
  | .challengeTicks => some c.challengeTicks
  | .overallTicks => c.overallTicks
  | .totalDeaths => some c.totalDeaths
  | .splits split => c.splits split
  | .tobXarpusHealing => c.tobStats.join
  | .mokMaxCompletedDelve => c.mokhaiotlStats

/-- What is fetched of a challenge besides its own columns. -/
structure ExtraChallengeFields where
  splits : List ℕ
  stats : Bool

/-- A challenge as it is fetched, with the splits and statistics asked for. -/
def overview (extra : ExtraChallengeFields) (c : Challenge) : Challenge :=
  { c with
    splits := fun split => if split ∈ extra.splits then c.splits split else none
    tobStats := if extra.stats then c.tobStats else none
    mokhaiotlStats := if extra.stats then c.mokhaiotlStats else none }

/-- The value of a fetched challenge to page from. A delve is looked up as a field of its own. -/
def getSortKeyValue (challenge : Challenge) : SortableField → Option ℤ
  | .splits split => challenge.splits split
  | .tobXarpusHealing => challenge.tobStats.join
  | .mokMaxCompletedDelve => none
  | key => column challenge key

/-! ### Queries -/

inductive SortDirection
  | ascending | descending
  deriving DecidableEq

inductive SortOptions
  | nullsFirst | nullsLast
  deriving DecidableEq

structure SortQuery where
  direction : SortDirection
  field : SortableField
  options : SortOptions

structure Pagination where
  before : Option (List (Option ℤ)) := none
  after : Option (List (Option ℤ)) := none

structure SearchContext where
  sort : List (SortDirection × SortableField)
  extraFields : ExtraChallengeFields
  pagination : Pagination

structure PageParams extends Pagination where
  sort : List (SortDirection × SortableField)

inductive FetchAction
  | load | forward | back
  deriving DecidableEq

def urlParam (values : List (Option ℤ)) : Option (List (Option ℤ)) :=
  if values = [] then none else some values

/-- The challenge whose sort values a page is asked for by. -/
def keyChallenge (challenges : List Challenge) : FetchAction → Option Challenge
  | .load => none
  | .forward => challenges.getLast?
  | .back => challenges.head?

def challengesQueryParams (context : SearchContext) (challenges : List Challenge)
    (action : FetchAction) : PageParams :=
  let sorts := context.sort
  let hasTime := sorts.any (·.2 = .startTime)
  let sort := if hasTime then sorts else sorts ++ [(.descending, .startTime)]
  let sortValues := match keyChallenge challenges action with
    | none => []
    | some challenge =>
      sorts.map (fun s => getSortKeyValue challenge s.2) ++
        if hasTime then [] else [some challenge.startTime]
  match action with
  | .load => { context.pagination with sort }
  | .back => { before := urlParam sortValues, sort }
  | .forward => { after := urlParam sortValues, sort }

def SortQuery.beyond (s : SortQuery) (value : ℤ) : Condition SortableField :=
  .compare (.field s.field) (if s.direction = .ascending then .gt else .lt) (.number value)

def primaryCondition (s : SortQuery) (reverse : Bool) (value : Option ℤ) :
    Option (Condition SortableField) :=
  value.map fun value =>
    if reverse then s.beyond value
    else .join (s.beyond value) .or (.compare (.field s.field) .is .null)

/-- What has the primary value, and is beyond the secondary one. Backwards, nulls come first. -/
def tieCondition (s : SortQuery) (reverse : Bool) (secondary : Condition SortableField) :
    Option ℤ → Condition SortableField
  | some value => .join (.compare (.field s.field) .eq (.number value)) .and secondary
  | none =>
    if reverse then
      .join (.compare (.field s.field) .isnot .null) .or
        (.join (.compare (.field s.field) .is .null) .and secondary)
    else .join (.compare (.field s.field) .eq .null) .and secondary

def paginationCondition (sorts : List SortQuery) (values : List (Option ℤ)) (reverse : Bool) :
    Option (Condition SortableField) :=
  match sorts, values with
  | [primarySort], [value] => primaryCondition primarySort reverse value
  | [primarySort, secondarySort], [value, some secondaryValue] =>
    let secondary := tieCondition primarySort reverse (secondarySort.beyond secondaryValue) value
    match primaryCondition primarySort reverse value with
    | none => some secondary
    | some cond => some (.join cond .or secondary)
  | _, _ => none

structure ChallengeQuery where
  sort : List SortQuery
  customConditions : List (Condition SortableField)

def SortDirection.flip : SortDirection → SortDirection
  | .ascending => .descending
  | .descending => .ascending

def parseSort (reverseSorts : Bool) (s : SortDirection × SortableField) : SortQuery :=
  { direction := if reverseSorts then s.1.flip else s.1
    field := s.2
    options := if reverseSorts then .nullsFirst else .nullsLast }

def parseChallengeQuery (params : PageParams) : Option ChallengeQuery :=
  if params.sort.length = 0 ∨ 2 < params.sort.length then none
  else
    let sort := params.sort.map (parseSort params.before.isSome)
    match params.before, params.after with
    | some _, some _ => none
    | some before, none =>
      (paginationCondition sort before true).map fun condition => ⟨sort, [condition]⟩
    | none, some after =>
      (paginationCondition sort after false).map fun condition => ⟨sort, [condition]⟩
    | none, none => some ⟨sort, []⟩

/-! ### Results -/

/-- A value by which the lowest comes first. -/
def SortDirection.signed : SortDirection → ℤ → ℤ
  | .ascending, v => v
  | .descending, v => -v

/-- Where a row stands by a sorted column: a column's nulls come first or last, whatever the
direction. -/
def SortQuery.rank (s : SortQuery) (c : Challenge) : WithBot (WithTop ℤ) :=
  match column c s.field, s.options with
  | none, .nullsFirst => ⊥
  | none, .nullsLast => ((⊤ : WithTop ℤ) : WithBot (WithTop ℤ))
  | some v, _ => ((s.direction.signed v : WithTop ℤ) : WithBot (WithTop ℤ))

/-- `ORDER BY` the sorts, each deciding between the rows that those before leave equal. -/
def order (sort : List SortQuery) (rows : List Challenge) : List Challenge :=
  orderBy (fun c => sort.map (·.rank c)) rows

def findChallenges (limit : ℕ) (query : ChallengeQuery) (rows : List Challenge) : List Challenge :=
  (order query.sort
    (rows.filter fun c => query.customConditions.all fun condition =>
      condition.Selects (column c))).take limit

def resultsPerPage : ℕ := 25

structure Results where
  challenges : List Challenge
  hasMore : Bool
  hasPrevious : Bool

/-- What is shown after a request. One that is refused leaves what is shown. -/
def loadChallenges (rows : List Challenge) (context : SearchContext) (results : Results)
    (action : FetchAction) : Results :=
  let params := challengesQueryParams context results.challenges action
  match parseChallengeQuery params with
  | none => results
  | some query =>
    let fetched := (findChallenges (resultsPerPage + 1) query rows).map
      (overview context.extraFields)
    let overfetched : Bool := resultsPerPage < fetched.length
    if action = .back ∨ params.before.isSome then
      { challenges :=
          if overfetched then fetched.reverse.drop (fetched.length - resultsPerPage)
          else fetched.reverse
        hasMore := true
        hasPrevious := overfetched }
    else if action = .forward then
      { challenges := fetched.take resultsPerPage, hasMore := overfetched, hasPrevious := true }
    else
      { challenges := fetched.take resultsPerPage
        hasMore := overfetched
        hasPrevious := context.pagination.after.isSome || context.pagination.before.isSome }

/-! ### Order and conditions -/

/-- One value stands before another in a direction. -/
def SortDirection.Before : SortDirection → ℤ → ℤ → Prop
  | .ascending, a, b => a < b
  | .descending, a, b => b < a

@[simp] lemma SortDirection.signed_lt {d : SortDirection} {v w : ℤ} :
    d.signed v < d.signed w ↔ d.Before v w := by
  cases d <;> simp [SortDirection.signed, SortDirection.Before]

@[simp] lemma SortDirection.signed_inj {d : SortDirection} {v w : ℤ} :
    d.signed v = d.signed w ↔ v = w := by
  cases d <;> simp [SortDirection.signed]

lemma selects_beyond {s : SortQuery} {value : ℤ} {c : Challenge} :
    (s.beyond value).Selects (column c) ↔
      ∃ v, column c s.field = some v ∧ s.direction.Before value v := by
  obtain ⟨direction, field, options⟩ := s
  cases direction
  · exact selects_gt
  · exact selects_lt

lemma rank_eq_rank {s : SortQuery} {a b : Challenge} :
    s.rank a = s.rank b ↔ column a s.field = column b s.field := by
  simp only [SortQuery.rank]
  cases column a s.field <;> cases column b s.field <;> cases s.options <;>
    simp [WithBot.coe_inj, WithTop.coe_inj]

lemma rank_lt_of_nullsLast {s : SortQuery} (hs : s.options = .nullsLast) {a b : Challenge} :
    s.rank a < s.rank b ↔ ∃ v, column a s.field = some v ∧
      (column b s.field = none ∨ ∃ w, column b s.field = some w ∧ s.direction.Before v w) := by
  simp only [SortQuery.rank, hs]
  cases column a s.field <;> cases column b s.field <;> simp
  exact WithBot.coe_lt_coe.mpr (WithTop.coe_lt_top _)

lemma rank_lt_of_nullsFirst {s : SortQuery} (hs : s.options = .nullsFirst) {a b : Challenge} :
    s.rank a < s.rank b ↔ ∃ w, column b s.field = some w ∧
      (column a s.field = none ∨ ∃ v, column a s.field = some v ∧ s.direction.Before v w) := by
  simp only [SortQuery.rank, hs]
  cases column a s.field <;> cases column b s.field <;> simp

/-- The sorts that a page is asked for with. -/
def issued (s : SortDirection × SortableField) : List (SortDirection × SortableField) :=
  if s.2 = .startTime then [s] else [s, (.descending, .startTime)]

/-- The order of the results, or of a page before another. -/
def issuedSort (reverse : Bool) (s : SortDirection × SortableField) : List SortQuery :=
  (issued s).map (parseSort reverse)

def sortKey (reverse : Bool) (s : SortDirection × SortableField) (c : Challenge) :
    List (WithBot (WithTop ℤ)) :=
  (issuedSort reverse s).map (·.rank c)

lemma sortKey_eq {reverse : Bool} {s : SortDirection × SortableField} {c : Challenge}
    (hs : s.2 ≠ .startTime) :
    sortKey reverse s c =
      [(parseSort reverse s).rank c, (parseSort reverse (.descending, .startTime)).rank c] := by
  simp [sortKey, issuedSort, issued, hs]

lemma sortKey_startTime {reverse : Bool} {s : SortDirection × SortableField} {c : Challenge}
    (hs : s.2 = .startTime) : sortKey reverse s c = [(parseSort reverse s).rank c] := by
  simp [sortKey, issuedSort, issued, hs]

lemma startTime_of_sortKey_eq {reverse : Bool} {s : SortDirection × SortableField}
    {a b : Challenge} (h : sortKey reverse s a = sortKey reverse s b) :
    a.startTime = b.startTime := by
  by_cases hs : s.2 = .startTime
  · rw [sortKey_startTime hs, sortKey_startTime hs, List.cons.injEq, rank_eq_rank] at h
    simpa [parseSort, hs, column] using h.1
  · rw [sortKey_eq hs, sortKey_eq hs, List.cons.injEq, List.cons.injEq, rank_eq_rank,
      rank_eq_rank] at h
    simpa [parseSort, column] using h.2.1

lemma sortKey_reverse_lt {s : SortDirection × SortableField} {a b : Challenge} :
    sortKey true s a < sortKey true s b ↔ sortKey false s b < sortKey false s a := by
  have hlt : ∀ s : SortDirection × SortableField,
      (parseSort true s).rank a < (parseSort true s).rank b ↔
        (parseSort false s).rank b < (parseSort false s).rank a := by
    intro s
    rw [rank_lt_of_nullsFirst rfl, rank_lt_of_nullsLast rfl]
    obtain ⟨direction, field⟩ := s
    cases direction <;> simp [parseSort, SortDirection.flip, SortDirection.Before]
  have heq : ∀ s : SortDirection × SortableField,
      (parseSort true s).rank a = (parseSort true s).rank b ↔
        (parseSort false s).rank b = (parseSort false s).rank a := by
    intro s
    rw [rank_eq_rank, rank_eq_rank]
    exact eq_comm
  by_cases hs : s.2 = .startTime
  · rw [sortKey_startTime hs, sortKey_startTime hs, sortKey_startTime hs, sortKey_startTime hs]
    simp [List.cons_lt_cons_iff, hlt]
  · rw [sortKey_eq hs, sortKey_eq hs, sortKey_eq hs, sortKey_eq hs]
    simp [List.cons_lt_cons_iff, hlt, heq]

/-- Where a challenge has a value, a row beyond it has one beyond that. Forwards, nulls are beyond
every value. -/
lemma rank_lt_of_some (reverse : Bool) {s : SortDirection × SortableField} {c row : Challenge}
    {v : ℤ} (hv : column c s.2 = some v) :
    (parseSort reverse s).rank c < (parseSort reverse s).rank row ↔
      ((parseSort reverse s).beyond v).Selects (column row) ∨
        reverse = false ∧ column row s.2 = none := by
  rw [selects_beyond]
  cases reverse
  · rw [rank_lt_of_nullsLast rfl]
    simp [parseSort, hv, or_comm]
  · rw [rank_lt_of_nullsFirst rfl]
    simp [parseSort, hv]

lemma selects_primaryCondition {reverse : Bool} {s : SortDirection × SortableField}
    {c row : Challenge} {v : ℤ} (hv : column c s.2 = some v) {cond : Condition SortableField}
    (hcond : primaryCondition (parseSort reverse s) reverse (some v) = some cond) :
    cond.Selects (column row) ↔
      (parseSort reverse s).rank c < (parseSort reverse s).rank row := by
  obtain rfl := Option.some_inj.mp hcond
  rw [rank_lt_of_some reverse hv]
  cases reverse <;> simp [parseSort]

lemma sortKey_lt {reverse : Bool} {s : SortDirection × SortableField} {c row : Challenge}
    (hs : s.2 ≠ .startTime) :
    sortKey reverse s c < sortKey reverse s row ↔
      (parseSort reverse s).rank c < (parseSort reverse s).rank row ∨
        column c s.2 = column row s.2 ∧
          ((parseSort reverse (.descending, .startTime)).beyond c.startTime).Selects
            (column row) := by
  have htime : (parseSort reverse (.descending, .startTime)).rank c <
      (parseSort reverse (.descending, .startTime)).rank row ↔
        ((parseSort reverse (.descending, .startTime)).beyond c.startTime).Selects
          (column row) := by
    rw [rank_lt_of_some reverse (v := c.startTime) rfl]
    simp [column]
  rw [sortKey_eq hs, sortKey_eq hs, List.cons_lt_cons_iff, List.cons_lt_cons_iff, htime,
    rank_eq_rank]
  simp [parseSort]

def sortValues (s : SortDirection × SortableField) (c : Challenge) : List (Option ℤ) :=
  (issued s).map fun s => column c s.2

lemma paginationCondition_startTime (reverse : Bool) {s : SortDirection × SortableField}
    (c : Challenge) (hs : s.2 = .startTime) :
    paginationCondition (issuedSort reverse s) (sortValues s c) reverse =
      primaryCondition (parseSort reverse s) reverse (column c s.2) := by
  rw [issuedSort, sortValues, issued, if_pos hs]
  rfl

lemma paginationCondition_eq (reverse : Bool) {s : SortDirection × SortableField} (c : Challenge)
    (hs : s.2 ≠ .startTime) (value : Option ℤ) :
    paginationCondition (issuedSort reverse s) [value, some c.startTime] reverse =
      let secondary := tieCondition (parseSort reverse s) reverse
        ((parseSort reverse (.descending, .startTime)).beyond c.startTime) value
      match primaryCondition (parseSort reverse s) reverse value with
      | none => some secondary
      | some cond => some (.join cond .or secondary) := by
  rw [issuedSort, issued, if_neg hs]
  rfl

/-- The condition for the sort values of a challenge selects what is beyond it, except forwards
from a null. -/
lemma exists_paginationCondition (reverse : Bool) {s : SortDirection × SortableField}
    {c : Challenge} (h : reverse = true ∨ column c s.2 ≠ none) :
    ∃ cond, paginationCondition (issuedSort reverse s) (sortValues s c) reverse = some cond ∧
      ∀ row, cond.Selects (column row) ↔ sortKey reverse s c < sortKey reverse s row := by
  by_cases hs : s.2 = .startTime
  · have hv : column c s.2 = some c.startTime := by rw [hs]; rfl
    obtain ⟨cond, hcond⟩ : ∃ cond,
        primaryCondition (parseSort reverse s) reverse (some c.startTime) = some cond := ⟨_, rfl⟩
    refine ⟨cond, ?_, fun row => ?_⟩
    · rw [paginationCondition_startTime reverse c hs, hv, hcond]
    · rw [selects_primaryCondition hv hcond, sortKey_startTime hs, sortKey_startTime hs]
      simp [List.cons_lt_cons_iff]
  · have hvalues : sortValues s c = [column c s.2, some c.startTime] := by
      rw [sortValues, issued, if_neg hs]
      rfl
    rw [hvalues, paginationCondition_eq reverse c hs]
    rcases hv : column c s.2 with _ | v
    · -- only backwards, where nulls come first
      have hreverse : reverse = true := by simpa [hv] using h
      subst hreverse
      refine ⟨_, rfl, fun row => ?_⟩
      rw [sortKey_lt hs, rank_lt_of_nullsFirst rfl, tieCondition, if_pos rfl]
      simp only [selects_or, selects_and, selects_is_null, selects_isnot_null]
      rcases hrow : column row s.2 with _ | w <;> simp [parseSort, hv, hrow]
    · obtain ⟨cond, hcond⟩ : ∃ cond,
          primaryCondition (parseSort reverse s) reverse (some v) = some cond := ⟨_, rfl⟩
      rw [hcond]
      refine ⟨_, rfl, fun row => ?_⟩
      rw [selects_or, selects_primaryCondition hv hcond, sortKey_lt hs, tieCondition, selects_and,
        selects_eq, hv]
      simp [parseSort, eq_comm]

lemma exists_paginationCondition_null {s : SortDirection × SortableField} (c : Challenge)
    (hs : s.2 ≠ .startTime) :
    ∃ cond, paginationCondition (issuedSort false s) [none, some c.startTime] false = some cond ∧
      ∀ row, ¬ cond.Selects (column row) := by
  rw [paginationCondition_eq false c hs]
  refine ⟨_, rfl, fun row h => ?_⟩
  rw [tieCondition, if_neg Bool.false_ne_true, selects_and] at h
  exact not_selects_eq_null h.1

/-! ### Requests -/

lemma getSortKeyValue_overview (extra : ExtraChallengeFields) (field : SortableField) :
    (∀ c, getSortKeyValue (overview extra c) field = column c field) ∨
      ∀ c, getSortKeyValue (overview extra c) field = none := by
  rcases field with _ | _ | _ | _ | _ | _ | _ | _ | _ | split | _ | _
  case splits =>
    by_cases h : split ∈ extra.splits <;> simp [getSortKeyValue, overview, column, h]
  case tobXarpusHealing => cases h : extra.stats <;> simp [getSortKeyValue, overview, column, h]
  case mokMaxCompletedDelve => exact Or.inr fun _ => rfl
  all_goals exact Or.inl fun _ => rfl

def shownValue (context : SearchContext) (s : SortDirection × SortableField) (c : Challenge) :
    Option ℤ :=
  getSortKeyValue (overview context.extraFields c) s.2

lemma column_of_shownValue {context : SearchContext} {s : SortDirection × SortableField}
    {c : Challenge} {v : ℤ} (h : shownValue context s c = some v) (d : Challenge) :
    shownValue context s d = column d s.2 := by
  rcases getSortKeyValue_overview context.extraFields s.2 with hshown | hshown
  · exact hshown d
  · simp [shownValue, hshown] at h

lemma shownValue_startTime {context : SearchContext} {s : SortDirection × SortableField}
    (hs : s.2 = .startTime) (c : Challenge) : shownValue context s c = column c s.2 := by
  rw [shownValue, hs]
  rfl

def sentValues (context : SearchContext) (s : SortDirection × SortableField) (c : Challenge) :
    List (Option ℤ) :=
  if s.2 = .startTime then [some c.startTime] else [shownValue context s c, some c.startTime]

lemma sentValues_eq {context : SearchContext} {s : SortDirection × SortableField} {c : Challenge}
    (h : shownValue context s c = column c s.2) : sentValues context s c = sortValues s c := by
  rw [sentValues, sortValues, issued, h]
  split_ifs with hs
  · rw [List.map_singleton, hs]
    rfl
  · rfl

/-- The search is sorted by a field, and by time where the page has added it. -/
def SortsBy (context : SearchContext) (s : SortDirection × SortableField) : Prop :=
  context.sort = [s] ∨ context.sort = issued s

lemma challengesQueryParams_forward {context : SearchContext} {s : SortDirection × SortableField}
    (hsort : SortsBy context s) {challenges : List Challenge} {c : Challenge}
    (hlast : challenges.getLast? = some (overview context.extraFields c)) :
    challengesQueryParams context challenges .forward =
      { after := some (sentValues context s c), sort := issued s } := by
  rcases hsort with hsort | hsort <;> rw [challengesQueryParams, hsort] <;>
    by_cases hs : s.2 = .startTime <;>
    simp [keyChallenge, hlast, hs, urlParam, sentValues, issued, shownValue, getSortKeyValue,
      column, overview]

lemma challengesQueryParams_back {context : SearchContext} {s : SortDirection × SortableField}
    (hsort : SortsBy context s) {challenges : List Challenge} {c : Challenge}
    (hfirst : challenges.head? = some (overview context.extraFields c)) :
    challengesQueryParams context challenges .back =
      { before := some (sentValues context s c), sort := issued s } := by
  rcases hsort with hsort | hsort <;> rw [challengesQueryParams, hsort] <;>
    by_cases hs : s.2 = .startTime <;>
    simp [keyChallenge, hfirst, hs, urlParam, sentValues, issued, shownValue, getSortKeyValue,
      column, overview]

lemma challengesQueryParams_load {context : SearchContext} {s : SortDirection × SortableField}
    (hsort : SortsBy context s) (challenges : List Challenge) :
    challengesQueryParams context challenges .load =
      { context.pagination with sort := issued s } := by
  rcases hsort with hsort | hsort <;> rw [challengesQueryParams, hsort] <;>
    by_cases hs : s.2 = .startTime <;> simp [hs, issued]

lemma length_issued (s : SortDirection × SortableField) :
    ¬((issued s).length = 0 ∨ 2 < (issued s).length) := by
  rw [issued]
  split_ifs <;> simp

lemma parseChallengeQuery_after {s : SortDirection × SortableField} {values : List (Option ℤ)}
    {cond : Condition SortableField}
    (hcond : paginationCondition (issuedSort false s) values false = some cond) :
    parseChallengeQuery { after := some values, sort := issued s } =
      some ⟨issuedSort false s, [cond]⟩ := by
  rw [parseChallengeQuery, if_neg (length_issued s)]
  change (paginationCondition (issuedSort false s) values false).map _ = _
  rw [hcond]
  rfl

lemma parseChallengeQuery_before {s : SortDirection × SortableField} {values : List (Option ℤ)}
    {cond : Condition SortableField}
    (hcond : paginationCondition (issuedSort true s) values true = some cond) :
    parseChallengeQuery { before := some values, sort := issued s } =
      some ⟨issuedSort true s, [cond]⟩ := by
  rw [parseChallengeQuery, if_neg (length_issued s)]
  change (paginationCondition (issuedSort true s) values true).map _ = _
  rw [hcond]
  rfl

lemma parseChallengeQuery_load (s : SortDirection × SortableField) :
    parseChallengeQuery { sort := issued s } = some ⟨issuedSort false s, []⟩ := by
  rw [parseChallengeQuery, if_neg (length_issued s)]
  rfl

/-! ### Pages -/

lemma sortKey_nodup (reverse : Bool) (s : SortDirection × SortableField) {rows : List Challenge}
    (hrows : (rows.map Challenge.startTime).Nodup) : (rows.map (sortKey reverse s)).Nodup := by
  refine List.pairwise_map.mpr ((List.pairwise_map.mp hrows).imp ?_)
  exact fun hne h => hne (startTime_of_sortKey_eq h)

def sorted (s : SortDirection × SortableField) (rows : List Challenge) : List Challenge :=
  order (issuedSort false s) rows

lemma sorted_pairwise (s : SortDirection × SortableField) {rows : List Challenge}
    (hrows : (rows.map Challenge.startTime).Nodup) :
    (sorted s rows).Pairwise fun a b => sortKey false s a < sortKey false s b :=
  orderBy_pairwise (sortKey_nodup false s hrows)

lemma length_sorted (s : SortDirection × SortableField) (rows : List Challenge) :
    (sorted s rows).length = rows.length :=
  (orderBy_perm _ rows).length_eq

lemma findChallenges_eq (reverse : Bool) (s : SortDirection × SortableField)
    {rows : List Challenge} (hrows : (rows.map Challenge.startTime).Nodup)
    (cond : Condition SortableField) (limit : ℕ) :
    findChallenges limit ⟨issuedSort reverse s, [cond]⟩ rows =
      ((order (issuedSort reverse s) rows).filter fun row => cond.Selects (column row)).take
        limit := by
  simp only [findChallenges, List.all_cons, List.all_nil, Bool.and_true]
  exact congrArg (List.take limit) (orderBy_filter (sortKey_nodup reverse s hrows) _)

lemma loadChallenges_eq_forward {rows : List Challenge} {context : SearchContext}
    {results : Results} {query : ChallengeQuery} (found : List Challenge)
    (hquery : parseChallengeQuery (challengesQueryParams context results.challenges .forward) =
      some query)
    (hbefore : (challengesQueryParams context results.challenges .forward).before = none)
    (hfound : findChallenges (resultsPerPage + 1) query rows =
      found.take (resultsPerPage + 1)) :
    loadChallenges rows context results .forward =
      { challenges := (found.take resultsPerPage).map (overview context.extraFields)
        hasMore := resultsPerPage < found.length
        hasPrevious := true } := by
  simp only [loadChallenges, hquery, hfound, hbefore]
  simp [List.take_take, List.map_take]

lemma loadChallenges_forward {rows : List Challenge}
    (hrows : (rows.map Challenge.startTime).Nodup) {context : SearchContext}
    {s : SortDirection × SortableField} (hsort : SortsBy context s) {front rest : List Challenge}
    {c : Challenge} (hsorted : sorted s rows = front ++ c :: rest) {results : Results}
    (hlast : results.challenges.getLast? = some (overview context.extraFields c))
    (hvalue : s.2 = .startTime ∨ shownValue context s c ≠ none) :
    loadChallenges rows context results .forward =
      { challenges := (rest.take resultsPerPage).map (overview context.extraFields)
        hasMore := resultsPerPage < rest.length
        hasPrevious := true } := by
  have hshown : shownValue context s c = column c s.2 := by
    rcases hvalue with hs | hvalue
    · exact shownValue_startTime hs c
    · obtain ⟨v, hv⟩ := Option.ne_none_iff_exists'.mp hvalue
      exact column_of_shownValue hv c
  have hcolumn : column c s.2 ≠ none := by
    rcases hvalue with hs | hvalue
    · rw [hs]
      exact Option.some_ne_none _
    · rwa [hshown] at hvalue
  obtain ⟨cond, hcond, hselects⟩ := exists_paginationCondition false (Or.inr hcolumn)
  rw [← sentValues_eq hshown] at hcond
  have hparams := challengesQueryParams_forward hsort hlast
  have hafter : (sorted s rows).filter (fun row => cond.Selects (column row)) = rest := by
    have hpairwise := sorted_pairwise s hrows
    rw [hsorted] at hpairwise ⊢
    exact filter_after hpairwise fun row => decide_eq_true_iff.trans (hselects row)
  refine loadChallenges_eq_forward rest (by rw [hparams, parseChallengeQuery_after hcond])
    (by rw [hparams]) ?_
  rw [findChallenges_eq false s hrows]
  exact congrArg (List.take _) hafter

lemma loadChallenges_forward_null {rows : List Challenge}
    (hrows : (rows.map Challenge.startTime).Nodup) {context : SearchContext}
    {s : SortDirection × SortableField} (hsort : SortsBy context s) {c : Challenge}
    {results : Results}
    (hlast : results.challenges.getLast? = some (overview context.extraFields c))
    (hs : s.2 ≠ .startTime) (hvalue : shownValue context s c = none) :
    loadChallenges rows context results .forward =
      { challenges := [], hasMore := false, hasPrevious := true } := by
  obtain ⟨cond, hcond, hselects⟩ := exists_paginationCondition_null c hs
  have hparams := challengesQueryParams_forward hsort hlast
  rw [sentValues, if_neg hs, hvalue] at hparams
  refine loadChallenges_eq_forward [] (by rw [hparams, parseChallengeQuery_after hcond])
    (by rw [hparams]) ?_
  rw [findChallenges_eq false s hrows, List.filter_eq_nil_iff.mpr fun row _ => by
    simpa using hselects row]

lemma loadChallenges_back {rows : List Challenge}
    (hrows : (rows.map Challenge.startTime).Nodup) {context : SearchContext}
    {s : SortDirection × SortableField} (hsort : SortsBy context s) {front rest : List Challenge}
    {c : Challenge} (hsorted : sorted s rows = front ++ c :: rest) {results : Results}
    (hfirst : results.challenges.head? = some (overview context.extraFields c))
    (hshown : shownValue context s c = column c s.2) :
    loadChallenges rows context results .back =
      { challenges := (front.drop (front.length - resultsPerPage)).map
          (overview context.extraFields)
        hasMore := true
        hasPrevious := resultsPerPage < front.length } := by
  obtain ⟨cond, hcond, hselects⟩ := exists_paginationCondition true (s := s) (c := c)
    (Or.inl rfl)
  rw [← sentValues_eq hshown] at hcond
  have hparams := challengesQueryParams_back hsort hfirst
  have hbefore : (sorted s rows).filter (fun row => cond.Selects (column row)) = front := by
    have hpairwise := sorted_pairwise s hrows
    rw [hsorted] at hpairwise ⊢
    exact filter_before hpairwise fun row =>
      (decide_eq_true_iff.trans (hselects row)).trans sortKey_reverse_lt
  have hreverse : order (issuedSort true s) rows = (sorted s rows).reverse :=
    orderBy_reverse (sortKey_nodup false s hrows) fun _ _ => sortKey_reverse_lt
  have hfound : findChallenges (resultsPerPage + 1) ⟨issuedSort true s, [cond]⟩ rows =
      front.reverse.take (resultsPerPage + 1) := by
    rw [findChallenges_eq true s hrows, hreverse, List.filter_reverse, hbefore]
  simp only [loadChallenges, hparams, parseChallengeQuery_before hcond, hfound]
  rw [if_pos (Or.inl trivial), ← reverse_take_reverse]
  simp [apply_ite (List.map _)]

/-! ### The walk through the pages -/

/-- What is shown before anything is requested. -/
def blank : Results := { challenges := [], hasMore := false, hasPrevious := false }

/-- The pages reached by going on from the first for as long as there is more. -/
def visit (rows : List Challenge) (context : SearchContext) : ℕ → Option Results
  | 0 => some (loadChallenges rows context blank .load)
  | n + 1 =>
    (visit rows context n).bind fun results =>
      if results.hasMore then some (loadChallenges rows context results .forward) else none

/-- The challenges seen on the first pages, one page after another. -/
def visited (rows : List Challenge) (context : SearchContext) (pages : ℕ) : List Challenge :=
  (List.range pages).flatMap fun n => ((visit rows context n).map Results.challenges).getD []

/-- A page that shows the part of the results it should. -/
def Shows (rows : List Challenge) (context : SearchContext) (s : SortDirection × SortableField)
    (n : ℕ) (results : Results) : Prop :=
  results.challenges =
      (page resultsPerPage (sorted s rows) n).map (overview context.extraFields) ∧
    results.hasMore = decide ((n + 1) * resultsPerPage < rows.length)

lemma resultsPerPage_pos : 0 < resultsPerPage := by decide

lemma shows_load (rows : List Challenge) {context : SearchContext}
    {s : SortDirection × SortableField} (hsort : SortsBy context s)
    (hfirst : context.pagination = {}) :
    Shows rows context s 0 (loadChallenges rows context blank .load) := by
  have hparams := challengesQueryParams_load hsort blank.challenges
  rw [hfirst] at hparams
  have hfound : findChallenges (resultsPerPage + 1) ⟨issuedSort false s, []⟩ rows =
      (sorted s rows).take (resultsPerPage + 1) := by
    have hall : (rows.filter fun c =>
        ([] : List (Condition SortableField)).all fun condition => condition.Selects (column c)) =
        rows := List.filter_eq_self.mpr fun _ _ => rfl
    rw [findChallenges, hall]
    rfl
  constructor
  · simp only [loadChallenges, hparams, parseChallengeQuery_load, hfound]
    simp [page, List.take_take, List.map_take]
  · simp only [loadChallenges, hparams, parseChallengeQuery_load, hfound]
    simp [length_sorted]

lemma exists_boundary (s : SortDirection × SortableField) {rows : List Challenge} {n : ℕ}
    (h : (n + 1) * resultsPerPage < rows.length) :
    ∃ c, (sorted s rows)[(n + 1) * resultsPerPage - 1]? = some c ∧
      (page resultsPerPage (sorted s rows) n).getLast? = some c ∧
      sorted s rows = (sorted s rows).take ((n + 1) * resultsPerPage - 1) ++
        c :: (sorted s rows).drop ((n + 1) * resultsPerPage) := by
  have hpos : 0 < (n + 1) * resultsPerPage := Nat.mul_pos n.succ_pos resultsPerPage_pos
  have hlength := length_sorted s rows
  have hlt : (n + 1) * resultsPerPage - 1 < (sorted s rows).length := by omega
  refine ⟨(sorted s rows)[(n + 1) * resultsPerPage - 1], List.getElem?_eq_getElem hlt, ?_, ?_⟩
  · rw [getLast?_page resultsPerPage_pos (by omega), List.getElem?_eq_getElem hlt]
  · have hdrop := List.drop_eq_getElem_cons hlt
    rw [Nat.sub_add_cancel hpos] at hdrop
    rw [← hdrop, List.take_append_drop]

lemma getLast?_of_shows {rows : List Challenge} {context : SearchContext}
    {s : SortDirection × SortableField} {n : ℕ} {results : Results} {c : Challenge}
    (hchallenges : results.challenges =
      (page resultsPerPage (sorted s rows) n).map (overview context.extraFields))
    (hc : (page resultsPerPage (sorted s rows) n).getLast? = some c) :
    results.challenges.getLast? = some (overview context.extraFields c) := by
  rw [hchallenges, List.getLast?_map, hc]
  rfl

lemma Shows.forward {rows : List Challenge} (hrows : (rows.map Challenge.startTime).Nodup)
    {context : SearchContext} {s : SortDirection × SortableField} (hsort : SortsBy context s)
    {n : ℕ} {results : Results} (h : Shows rows context s n results)
    (hmore : (n + 1) * resultsPerPage < rows.length)
    (hvalue : ∀ c, (sorted s rows)[(n + 1) * resultsPerPage - 1]? = some c →
      s.2 = .startTime ∨ shownValue context s c ≠ none) :
    Shows rows context s (n + 1) (loadChallenges rows context results .forward) := by
  obtain ⟨c, hc, hlast, hsorted⟩ := exists_boundary s hmore
  have hload := loadChallenges_forward hrows hsort hsorted (getLast?_of_shows h.1 hlast)
    (hvalue c hc)
  constructor
  · rw [hload, page]
  · have hn : (n + 1 + 1) * resultsPerPage = (n + 1) * resultsPerPage + resultsPerPage :=
      Nat.succ_mul _ _
    rw [hload, decide_eq_decide, List.length_drop, length_sorted]
    omega

lemma Shows.back {rows : List Challenge} (hrows : (rows.map Challenge.startTime).Nodup)
    {context : SearchContext} {s : SortDirection × SortableField} (hsort : SortsBy context s)
    {n : ℕ} {results : Results} (h : Shows rows context s (n + 1) results)
    (hmore : (n + 1) * resultsPerPage < rows.length)
    (hvalue : ∀ c, shownValue context s c = column c s.2) :
    (loadChallenges rows context results .back).challenges =
      (page resultsPerPage (sorted s rows) n).map (overview context.extraFields) := by
  rw [← length_sorted s rows] at hmore
  have hfirst : results.challenges.head? =
      some (overview context.extraFields (sorted s rows)[(n + 1) * resultsPerPage]) := by
    rw [h.1, List.head?_map, head?_page resultsPerPage_pos, List.getElem?_eq_getElem hmore]
    rfl
  have hsorted : sorted s rows = (sorted s rows).take ((n + 1) * resultsPerPage) ++
      (sorted s rows)[(n + 1) * resultsPerPage] ::
        (sorted s rows).drop ((n + 1) * resultsPerPage + 1) := by
    rw [← List.drop_eq_getElem_cons hmore, List.take_append_drop]
  rw [loadChallenges_back hrows hsort hsorted hfirst (hvalue _), List.length_take,
    min_eq_left hmore.le, page, Nat.succ_mul, Nat.add_sub_cancel, List.drop_take,
    Nat.add_sub_cancel_left]

lemma visited_succ (rows : List Challenge) (context : SearchContext) (n : ℕ) :
    visited rows context (n + 1) = visited rows context n ++
      ((visit rows context n).map Results.challenges).getD [] := by
  rw [visited, visited, List.range_succ, List.flatMap_append, List.flatMap_singleton]

lemma visited_ne_of_null {rows : List Challenge} (hrows : (rows.map Challenge.startTime).Nodup)
    {context : SearchContext} {s : SortDirection × SortableField} (hsort : SortsBy context s)
    (hs : s.2 ≠ .startTime) {n : ℕ} {c : Challenge}
    (hmore : (n + 1) * resultsPerPage < rows.length)
    (hc : (sorted s rows)[(n + 1) * resultsPerPage - 1]? = some c)
    (hnull : shownValue context s c = none) :
    ¬ ∀ n, visited rows context n =
      ((sorted s rows).take (n * resultsPerPage)).map (overview context.extraFields) := by
  intro h
  obtain ⟨c', hc', hlast, -⟩ := exists_boundary s hmore
  obtain rfl : c' = c := Option.some_inj.mp (hc'.symm.trans hc)
  -- page `n` shows what it should, and ends in the null
  have hpage : ((visit rows context n).map Results.challenges).getD [] =
      (page resultsPerPage (sorted s rows) n).map (overview context.extraFields) := by
    have hsucc := visited_succ rows context n
    rw [h, h, ← take_append_page, List.map_append] at hsucc
    exact (List.append_cancel_left hsucc).symm
  have hnext : ((visit rows context (n + 1)).map Results.challenges).getD [] = [] := by
    rw [visit]
    cases hvisit : visit rows context n with
    | none => rfl
    | some results =>
      rw [hvisit] at hpage
      have hload := loadChallenges_forward_null hrows hsort
        (getLast?_of_shows hpage hlast) hs hnull
      rw [Option.bind_some, hload]
      cases results.hasMore <;> rfl
  have hsucc := visited_succ rows context (n + 1)
  rw [hnext, List.append_nil, h, h] at hsucc
  have hlength := congrArg List.length hsucc
  rw [List.length_map, List.length_map, List.length_take, List.length_take,
    length_sorted] at hlength
  have hn : (n + 1 + 1) * resultsPerPage = (n + 1) * resultsPerPage + resultsPerPage :=
    Nat.succ_mul _ _
  have hpos := resultsPerPage_pos
  omega

/-- No page that is followed by another ends in a null. -/
def EndsInValues (rows : List Challenge) (context : SearchContext)
    (s : SortDirection × SortableField) : Prop :=
  ∀ n c, (n + 1) * resultsPerPage < rows.length →
    (sorted s rows)[(n + 1) * resultsPerPage - 1]? = some c →
      s.2 = .startTime ∨ shownValue context s c ≠ none

section

variable {rows : List Challenge} (hrows : (rows.map Challenge.startTime).Nodup)
  {context : SearchContext} {s : SortDirection × SortableField} (hsort : SortsBy context s)
  (hfirst : context.pagination = {})

include hrows hsort hfirst

lemma shows_visit (h : EndsInValues rows context s) (n : ℕ) :
    (n = 0 ∨ n * resultsPerPage < rows.length →
      ∃ results, visit rows context n = some results ∧ Shows rows context s n results) ∧
    (¬(n = 0 ∨ n * resultsPerPage < rows.length) → visit rows context n = none) := by
  induction n with
  | zero =>
    exact ⟨fun _ => ⟨_, rfl, shows_load rows hsort hfirst⟩, fun hn => absurd (Or.inl rfl) hn⟩
  | succ n ih =>
    have hn : (n + 1) * resultsPerPage = n * resultsPerPage + resultsPerPage := Nat.succ_mul _ _
    constructor
    · rintro (hzero | hmore)
      · exact absurd hzero n.succ_ne_zero
      · obtain ⟨results, hvisit, hshows⟩ := ih.1 (Or.inr (by omega))
        refine ⟨_, ?_, hshows.forward hrows hsort hmore fun c hc => h n c hmore hc⟩
        rw [visit, hvisit, Option.bind_some, if_pos (by rw [hshows.2]; exact decide_eq_true hmore)]
    · intro hend
      by_cases hprev : n = 0 ∨ n * resultsPerPage < rows.length
      · obtain ⟨results, hvisit, hshows⟩ := ih.1 hprev
        have hmore : results.hasMore = false := by
          rw [hshows.2]
          exact decide_eq_false fun hmore => hend (Or.inr hmore)
        rw [visit, hvisit, Option.bind_some, hmore]
        rfl
      · rw [visit, ih.2 hprev]
        rfl

/-- Where every page that is followed by another ends in a value, and only there, the walk sees
every challenge once in the order of the search. From every page the one before is reached. -/
theorem paging_iff :
    ((∀ n, visited rows context n =
        ((sorted s rows).take (n * resultsPerPage)).map (overview context.extraFields)) ∧
      ∀ n shown next, visit rows context n = some shown → visit rows context (n + 1) = some next →
        (loadChallenges rows context next .back).challenges = shown.challenges) ↔
      EndsInValues rows context s := by
  constructor
  · intro h n c hmore hc
    by_contra hvalue
    push Not at hvalue
    exact visited_ne_of_null hrows hsort hvalue.1 hmore hc hvalue.2 h.1
  · intro h
    refine ⟨fun n => ?_, fun n shown next hshown hnext => ?_⟩
    · induction n with
      | zero => simp [visited]
      | succ n ih =>
        rw [visited_succ, ih, ← take_append_page, List.map_append]
        congr 1
        obtain ⟨hpage, hend⟩ := shows_visit hrows hsort hfirst h n
        by_cases hn : n = 0 ∨ n * resultsPerPage < rows.length
        · obtain ⟨results, hvisit, hshows⟩ := hpage hn
          rw [hvisit]
          exact hshows.1
        · rw [hend hn, page, List.drop_eq_nil_of_le (by rw [length_sorted]; omega)]
          rfl
    · have hmore : (n + 1) * resultsPerPage < rows.length := by
        by_contra hend
        rw [(shows_visit hrows hsort hfirst h (n + 1)).2 (by omega)] at hnext
        exact absurd hnext (Option.some_ne_none next).symm
      obtain ⟨next', hnext', hshows⟩ :=
        (shows_visit hrows hsort hfirst h (n + 1)).1 (Or.inr hmore)
      obtain rfl : next' = next := Option.some_inj.mp (hnext'.symm.trans hnext)
      obtain ⟨shown', hshown', hprev⟩ := (shows_visit hrows hsort hfirst h n).1
        (by rw [Nat.succ_mul] at hmore; omega)
      obtain rfl : shown' = shown := Option.some_inj.mp (hshown'.symm.trans hshown)
      have hvalue : ∀ c, shownValue context s c = column c s.2 := by
        obtain ⟨c, hc, -, -⟩ := exists_boundary s hmore
        rcases h n c hmore hc with hs | hv
        · exact shownValue_startTime hs
        · obtain ⟨v, hv⟩ := Option.ne_none_iff_exists'.mp hv
          exact column_of_shownValue hv
      rw [hshows.back hrows hsort hmore hvalue, hprev.1]

end

def unfinished (startTime : ℕ) : Challenge :=
  { startTime, type := 1, status := 0, stage := 10, mode := 11, scale := 5, challengeTicks := 300
    overallTicks := none, totalDeaths := 0, splits := fun _ => none, tobStats := none
    mokhaiotlStats := none }

def byOverallTicks : SearchContext :=
  { sort := [(.ascending, .overallTicks)], extraFields := { splits := [], stats := false }
    pagination := {} }

def unfinishedRows (n : ℕ) : List Challenge := (List.range n).map unfinished

lemma startTimes_unfinishedRows (n : ℕ) :
    ((unfinishedRows n).map Challenge.startTime).Nodup := by
  rw [unfinishedRows, List.map_map]
  exact List.nodup_range.map fun a b h => Int.ofNat.inj h

lemma length_unfinishedRows (n : ℕ) : (unfinishedRows n).length = n := by simp [unfinishedRows]

theorem paging_unfinished :
    ((∀ n, visited (unfinishedRows 3) byOverallTicks n =
        ((sorted (.ascending, .overallTicks) (unfinishedRows 3)).take (n * resultsPerPage)).map
          (overview byOverallTicks.extraFields)) ∧
      ∀ n shown next, visit (unfinishedRows 3) byOverallTicks n = some shown →
        visit (unfinishedRows 3) byOverallTicks (n + 1) = some next →
        (loadChallenges (unfinishedRows 3) byOverallTicks next .back).challenges =
          shown.challenges) :=
  (paging_iff (startTimes_unfinishedRows 3) (Or.inl rfl) rfl).mpr fun n c hmore _ => by
    rw [length_unfinishedRows, resultsPerPage] at hmore
    omega

lemma lost_of_unfinishedRows {n : ℕ} (h : resultsPerPage < n) :
    ¬ ∀ pages, visited (unfinishedRows n) byOverallTicks pages =
      ((sorted (.ascending, .overallTicks) (unfinishedRows n)).take
        (pages * resultsPerPage)).map (overview byOverallTicks.extraFields) := by
  have hmore : (0 + 1) * resultsPerPage < (unfinishedRows n).length := by
    rw [length_unfinishedRows]
    omega
  obtain ⟨c, hc, -⟩ := exists_boundary (.ascending, .overallTicks) hmore
  refine visited_ne_of_null (startTimes_unfinishedRows n) (Or.inl rfl) (by decide) hmore hc ?_
  have hmem : c ∈ unfinishedRows n := (orderBy_perm _ _).subset (List.mem_of_getElem? hc)
  obtain ⟨i, -, rfl⟩ := List.mem_map.mp hmem
  rfl

/-- Of thirty unfinished challenges the last five are not seen. -/
theorem unfinished_lost :
    ¬ ∀ pages, visited (unfinishedRows 30) byOverallTicks pages =
      ((sorted (.ascending, .overallTicks) (unfinishedRows 30)).take
        (pages * resultsPerPage)).map (overview byOverallTicks.extraFields) :=
  lost_of_unfinishedRows (by decide)

end Blert.Search
