import Blert.Cumulative
import Blert.Names.Migration

/-!
Statistics that move with a player.

A player's statistics are a cumulative series. A migration gives what a source has gained in a
window to a target, as long as not both of them have gained something there.
-/

namespace Blert.Names

open Lifecycle Processing Fallible Cumulative

variable {Custom Own : Type}

/-! ### Series -/

def series (db : Accounts Custom Own) (playerId : ℕ) : List (ℤ × PlayerStats) :=
  (statsOf db playerId).map fun row => (statsDate row.1, row.2)

lemma statsDate_lt {day day' : ℕ} : statsDate day < statsDate day' ↔ day < day' := by
  unfold statsDate dayMillis
  omega

lemma mem_statsOf {db : Accounts Custom Own} {playerId : ℕ} {row : ℕ × PlayerStats} :
    row ∈ statsOf db playerId ↔ db.playerStats.get (playerId, row.1) = some row.2 := by
  unfold statsOf
  rw [List.mem_insertionSort, List.mem_map, InsertionMap.get_eq_some]
  constructor
  · rintro ⟨⟨⟨p, day⟩, stats⟩, he, rfl⟩
    obtain ⟨hmem, hp⟩ := List.mem_filter.mp he
    obtain rfl : p = playerId := by simpa using hp
    exact hmem
  · intro he
    exact ⟨_, List.mem_filter.mpr ⟨he, by simp⟩, rfl⟩

lemma pairwise_statsOf (db : Accounts Custom Own) (playerId : ℕ) :
    (statsOf db playerId).Pairwise (·.1 < ·.1) := by
  have hsorted := List.pairwise_insertionSort (fun a b : ℕ × PlayerStats => a.1 ≤ b.1)
    ((db.playerStats.entries.filter (·.1.1 = playerId)).map fun e => (e.1.2, e.2))
  have hkeys : (((db.playerStats.entries.filter (·.1.1 = playerId)).map fun e =>
      (e.1.2, e.2)).map Prod.fst).Nodup := by
    have hpairs := (List.pairwise_map.mp db.playerStats.nodup).filter (·.1.1 = playerId)
    refine List.pairwise_map.mpr (List.pairwise_map.mpr (hpairs.imp_of_mem ?_))
    intro a b ha hb hne hday
    have ha' : a.1.1 = playerId := by simpa using (List.mem_filter.mp ha).2
    have hb' : b.1.1 = playerId := by simpa using (List.mem_filter.mp hb).2
    exact hne (Prod.ext (ha'.trans hb'.symm) hday)
  have hnodup : ((statsOf db playerId).map Prod.fst).Nodup :=
    (((List.perm_insertionSort _ _).map _).nodup_iff).mpr hkeys
  exact (hsorted.and (List.pairwise_map.mp hnodup)).imp fun h => lt_of_le_of_ne h.1 h.2

lemma mem_series {db : Accounts Custom Own} {playerId : ℕ} {r : ℤ × PlayerStats} :
    r ∈ series db playerId ↔
      ∃ day, statsDate day = r.1 ∧ db.playerStats.get (playerId, day) = some r.2 := by
  unfold series
  rw [List.mem_map]
  constructor
  · rintro ⟨row, hrow, rfl⟩
    exact ⟨row.1, rfl, mem_statsOf.1 hrow⟩
  · rintro ⟨day, hday, hget⟩
    exact ⟨(day, r.2), mem_statsOf.2 hget, Prod.ext hday rfl⟩

lemma chronological_series (db : Accounts Custom Own) (playerId : ℕ) :
    Chronological (series db playerId) :=
  List.pairwise_map.mpr ((pairwise_statsOf db playerId).imp statsDate_lt.2)

lemma lastStats_eq_base (db : Accounts Custom Own) (playerId : ℕ) (date : Option ℤ) :
    (lastStatsAtOrBefore db playerId date).getD 0 = base (series db playerId) date := by
  cases date with
  | none => rfl
  | some t =>
    unfold lastStatsAtOrBefore base total lastUpTo series
    rw [Option.bind_some, Option.map_some, Option.getD_some, List.filter_map, List.getLast?_map,
      Option.map_map]
    rfl

/-! ### What a migration does -/

section Migration

variable {target source : ℕ} {fromDate toDate : Option ℤ} {db db' : Accounts Custom Own}

/-- What the source has gained in a window that ends. -/
def windowDelta (db : Accounts Custom Own) (source : ℕ) (fromDate toDate : Option ℤ) :
    PlayerStats :=
  (toDate.map (gainedIn (series db source) fromDate toDate)).getD 0

/-- The value that a row of the source's is given. -/
def rebased (db : Accounts Custom Own) (target source : ℕ) (fromDate : Option ℤ)
    (stats : PlayerStats) : PlayerStats :=
  base (series db target) fromDate + (stats - base (series db source) fromDate)

/-- A value with what is added to it after a date. -/
def shiftedAfter (toDate : Option ℤ) (t : ℤ) (delta stats : PlayerStats) : PlayerStats :=
  if toDate.any (· < t) then stats + delta else stats

def migratedRow (db : Accounts Custom Own) (target source : ℕ) (fromDate toDate : Option ℤ)
    (playerId day : ℕ) : Option PlayerStats :=
  let row := db.playerStats.get (playerId, day)
  let delta := windowDelta db source fromDate toDate
  if playerId = target then
    if isBetween fromDate toDate (statsDate day) ∧ db.playerStats.has (source, day) then
      (db.playerStats.get (source, day)).map (rebased db target source fromDate)
    else row.map (shiftedAfter toDate (statsDate day) delta)
  else if playerId = source then
    if isBetween fromDate toDate (statsDate day) then none
    else row.map (shiftedAfter toDate (statsDate day) (-delta))
  else row

/-- No day in a window has statistics of both players. -/
def NoSharedDay (db : Accounts Custom Own) (target source : ℕ) (fromDate toDate : Option ℤ) :
    Prop :=
  ∀ day, isBetween fromDate toDate (statsDate day) → db.playerStats.has (source, day) →
    db.playerStats.has (target, day) = false

/-- The rows that move, with the values they are given. -/
def moveAll (m : InsertionMap (ℕ × ℕ) PlayerStats) (target source : ℕ)
    (f : PlayerStats → PlayerStats) (rows : List (ℕ × PlayerStats)) :
    InsertionMap (ℕ × ℕ) PlayerStats :=
  rows.foldl (fun m row => (m.erase (source, row.1)).set (target, row.1) (f row.2)) m

lemma run_moveStats (hne : target ≠ source) {day : ℕ} {stats : PlayerStats} {u : Unit} :
    (moveStats target source day stats).run db = .ok (u, db') ↔
      db.playerStats.has (target, day) = false ∧ db' = { db with
        playerStats := (db.playerStats.erase (source, day)).set (target, day) stats } := by
  unfold moveStats
  rw [run_bind_ok]
  constructor
  · rintro ⟨_, _, hget, h⟩
    cases hget
    dsimp only at h
    split_ifs at h with hhas
    · cases h
    · cases h
      exact ⟨by simpa [hne] using hhas, rfl⟩
  · rintro ⟨hhas, rfl⟩
    refine ⟨db, db, rfl, ?_⟩
    dsimp only
    rw [if_neg (by simp [hhas])]
    rfl

lemma run_moves (hne : target ≠ source) (f : PlayerStats → PlayerStats)
    {rows : List (ℕ × PlayerStats)} (hnd : (rows.map Prod.fst).Nodup) {u : PUnit} :
    (rows.forM fun row => moveStats target source row.1 (f row.2)).run db = .ok (u, db') ↔
      (∀ row ∈ rows, db.playerStats.has (target, row.1) = false) ∧
        db' = { db with playerStats := moveAll db.playerStats target source f rows } := by
  induction rows generalizing db with
  | nil =>
    constructor
    · intro h
      cases h
      exact ⟨nofun, rfl⟩
    · rintro ⟨-, rfl⟩
      rfl
  | cons row rows ih =>
    obtain ⟨hfirst, hrest⟩ := List.nodup_cons.mp hnd
    change (moveStats target source row.1 (f row.2) >>= fun _ =>
      rows.forM fun row => moveStats target source row.1 (f row.2)).run db = _ ↔ _
    rw [run_bind_ok, List.forall_mem_cons]
    simp only [run_moveStats hne, ih hrest]
    have hhas : ∀ row' ∈ rows, ((db.playerStats.erase (source, row.1)).set (target, row.1)
        (f row.2)).has (target, row'.1) = db.playerStats.has (target, row'.1) := by
      intro row' hrow'
      have hday : row'.1 ≠ row.1 := fun heq => hfirst (List.mem_map.mpr ⟨row', hrow', heq⟩)
      unfold InsertionMap.has
      rw [InsertionMap.get_set, InsertionMap.get_erase, if_neg (by simp [hday]),
        if_neg (by simp [hday])]
    constructor
    · rintro ⟨_, _, ⟨hrow, rfl⟩, hrows, rfl⟩
      exact ⟨⟨hrow, fun row' hrow' => (hhas row' hrow').symm.trans (hrows row' hrow')⟩, rfl⟩
    · rintro ⟨⟨hrow, hrows⟩, rfl⟩
      exact ⟨(), _, ⟨hrow, rfl⟩, fun row' hrow' => (hhas row' hrow').trans (hrows row' hrow'), rfl⟩

lemma get_moveAll (f : PlayerStats → PlayerStats)
    {rows : List (ℕ × PlayerStats)} (hnd : (rows.map Prod.fst).Nodup)
    (m : InsertionMap (ℕ × ℕ) PlayerStats) (playerId day : ℕ) :
    (moveAll m target source f rows).get (playerId, day) =
      if playerId = target then
        ((InsertionMap.find day rows).map f).or (m.get (playerId, day))
      else if playerId = source ∧ (InsertionMap.find day rows).isSome then none
      else m.get (playerId, day) := by
  induction rows generalizing m with
  | nil => simp [moveAll, InsertionMap.find]
  | cons row rows ih =>
    obtain ⟨day', stats⟩ := row
    obtain ⟨hfirst, hrest⟩ := List.nodup_cons.mp hnd
    change (moveAll ((m.erase (source, day')).set (target, day') (f stats)) target source f
      rows).get (playerId, day) = _
    rw [ih hrest, InsertionMap.get_set, InsertionMap.get_erase, InsertionMap.find]
    by_cases hday : day = day'
    · subst hday
      have hnone : InsertionMap.find day rows = none := by
        by_contra hsome
        obtain ⟨v, hv⟩ := Option.ne_none_iff_exists'.mp hsome
        exact hfirst (List.mem_map.mpr ⟨_, (InsertionMap.find_eq_some hrest).mp hv, rfl⟩)
      by_cases htarget : playerId = target
      · simp [htarget, hnone]
      · by_cases hsource : playerId = source <;> simp [htarget, hsource, hnone]
    · simp [hday]

def statsToMigrate (db : Accounts Custom Own) (source : ℕ) (fromDate toDate : Option ℤ) :
    List (ℕ × PlayerStats) :=
  (statsOf db source).filter fun row => isBetween fromDate toDate (statsDate row.1)

lemma nodup_statsToMigrate (db : Accounts Custom Own) (source : ℕ) (fromDate toDate : Option ℤ) :
    ((statsToMigrate db source fromDate toDate).map Prod.fst).Nodup :=
  List.pairwise_map.mpr (((pairwise_statsOf db source).filter _).imp fun h => h.ne)

lemma find_statsToMigrate (db : Accounts Custom Own) (source : ℕ) (fromDate toDate : Option ℤ)
    (day : ℕ) : InsertionMap.find day (statsToMigrate db source fromDate toDate) =
      if isBetween fromDate toDate (statsDate day) then db.playerStats.get (source, day)
      else none := by
  ext stats
  rw [InsertionMap.find_eq_some (nodup_statsToMigrate _ _ _ _), statsToMigrate, List.mem_filter,
    mem_statsOf]
  split_ifs with hday <;> simp [hday]

lemma noSharedDay_iff : NoSharedDay db target source fromDate toDate ↔
    ∀ row ∈ statsToMigrate db source fromDate toDate,
      db.playerStats.has (target, row.1) = false := by
  constructor
  · intro h row hrow
    obtain ⟨hrow, hday⟩ := List.mem_filter.mp hrow
    refine h row.1 hday ?_
    rw [InsertionMap.has, mem_statsOf.1 hrow]
    rfl
  · intro h day hday hhas
    obtain ⟨stats, hstats⟩ := Option.isSome_iff_exists.mp hhas
    exact h (day, stats) (List.mem_filter.mpr ⟨mem_statsOf.2 hstats, hday⟩)

lemma windowDelta_eq (db : Accounts Custom Own) (source : ℕ) (fromDate : Option ℤ) (e : ℤ) :
    windowDelta db source fromDate (some e) =
      (((statsToMigrate db source fromDate (some e)).getLast?).map fun row =>
        row.2 - base (series db source) fromDate).getD 0 := by
  change gainedIn (series db source) fromDate (some e) e = _
  cases hlast : (statsToMigrate db source fromDate (some e)).getLast? with
  | none =>
    refine gainedIn_of_none fun r hr hwindow => ?_
    obtain ⟨day, hday, hget⟩ := mem_series.1 hr
    have hmem : (day, r.2) ∈ statsToMigrate db source fromDate (some e) :=
      List.mem_filter.mpr ⟨mem_statsOf.2 hget, by rw [hday]; exact hwindow⟩
    rw [List.getLast?_eq_none_iff.mp hlast] at hmem
    cases hmem
  | some row =>
    obtain ⟨hrow, hwindow⟩ := List.mem_filter.mp (List.mem_of_getLast? hlast)
    have hmem : (statsDate row.1, row.2) ∈ series db source :=
      mem_series.2 ⟨row.1, rfl, mem_statsOf.1 hrow⟩
    have hle : statsDate row.1 ≤ e := by
      simpa [isBetween] using (Bool.and_eq_true_iff.mp hwindow).2
    have hlater : ∀ r ∈ series db source, between fromDate (some e) r.1 →
        statsDate row.1 < r.1 → e < r.1 := by
      intro r hr hr' hlt
      obtain ⟨day, hday, hget⟩ := mem_series.1 hr
      have hmem : (day, r.2) ∈ statsToMigrate db source fromDate (some e) :=
        List.mem_filter.mpr ⟨mem_statsOf.2 hget, by rw [hday]; exact hr'⟩
      rw [← hday, statsDate_lt] at hlt
      rcases le_getLast ((pairwise_statsOf db source).filter _) hlast hmem with heq | hlt'
      · rw [← heq] at hlt
        exact absurd hlt (lt_irrefl _)
      · exact absurd hlt hlt'.not_gt
    rw [gainedIn_eq_of_between hle hlater,
      gainedIn_of_between (chronological_series db source) hwindow,
      total_of_mem (chronological_series db source) hmem]
    rfl

lemma run_shiftLaterStats (hne : target ≠ source) (db : Accounts Custom Own)
    (toDate : Option ℤ) (delta : Option PlayerStats) :
    ∃ db', (shiftLaterStats target source toDate delta).run db = .ok ((), db') ∧
      ∀ playerId day, db'.playerStats.get (playerId, day) =
        (db.playerStats.get (playerId, day)).map fun stats =>
          if toDate.any (· < statsDate day) then
            if playerId = target then stats + delta.getD 0
            else if playerId = source then stats + -delta.getD 0 else stats
          else stats := by
  unfold shiftLaterStats
  split
  · next t d =>
    refine ⟨_, rfl, fun playerId day => ?_⟩
    dsimp only
    rw [InsertionMap.get_mapValues, InsertionMap.get_mapValues, Option.map_map]
    refine congrArg (Option.map · _) (funext fun stats => ?_)
    by_cases hdate : t < statsDate day
    · by_cases htarget : playerId = target
      · simp [hdate, htarget, hne]
      · simp [hdate, htarget]
    · simp [hdate]
  · next h =>
    refine ⟨db, rfl, fun playerId day => ?_⟩
    cases toDate with
    | none => simp
    | some t =>
      cases delta with
      | none => simp
      | some d => exact absurd rfl (h t d rfl)

def lastDelta (db : Accounts Custom Own) (source : ℕ) (fromDate toDate : Option ℤ) :
    Option PlayerStats :=
  ((statsToMigrate db source fromDate toDate).getLast?).map fun row =>
    row.2 - base (series db source) fromDate

lemma updatePlayerStats_eq (target source : ℕ) (fromDate toDate : Option ℤ)
    (db : Accounts Custom Own) :
    (updatePlayerStats target source fromDate toDate).run db =
      ((statsToMigrate db source fromDate toDate).forM (fun row =>
        moveStats target source row.1 (rebased db target source fromDate row.2)) >>= fun _ =>
        shiftLaterStats target source toDate (lastDelta db source fromDate toDate) >>= fun _ =>
        pure (statsToMigrate db source fromDate toDate).length :
          Tx Custom Own ℕ).run db := by
  simp only [lastDelta, rebased, ← lastStats_eq_base]
  rfl

lemma lastDelta_eq {day : ℕ} (hlater : toDate.any (· < statsDate day)) :
    (lastDelta db source fromDate toDate).getD 0 = windowDelta db source fromDate toDate := by
  cases toDate with
  | none => cases hlater
  | some e => exact (windowDelta_eq db source fromDate e).symm

lemma not_later {day : ℕ} (hday : isBetween fromDate toDate (statsDate day)) :
    ¬ toDate.any (· < statsDate day) := by
  have hto := (Bool.and_eq_true_iff.mp hday).2
  cases toDate with
  | none => exact Bool.false_ne_true
  | some e =>
    have hle : statsDate day ≤ e := by simpa using hto
    simpa using hle

lemma shiftedAfter_eq_id {t : ℤ} (h : ¬ toDate.any (· < t)) (delta : PlayerStats) :
    shiftedAfter toDate t delta = id :=
  funext fun _ => if_neg h

lemma noSharedDay_of_run (hne : target ≠ source) {n : ℕ}
    (h : (updatePlayerStats target source fromDate toDate).run db = .ok (n, db')) :
    NoSharedDay db target source fromDate toDate := by
  rw [updatePlayerStats_eq] at h
  obtain ⟨_, _, hmoves, -⟩ := run_bind_ok.1 h
  exact noSharedDay_iff.2 ((run_moves hne (rebased db target source fromDate)
    (nodup_statsToMigrate _ _ _ _)).mp hmoves).1

lemma run_updatePlayerStats (hne : target ≠ source)
    (h : NoSharedDay db target source fromDate toDate) :
    ∃ n db', (updatePlayerStats target source fromDate toDate).run db = .ok (n, db') ∧
      ∀ playerId day, db'.playerStats.get (playerId, day) =
        migratedRow db target source fromDate toDate playerId day := by
  have hnd := nodup_statsToMigrate db source fromDate toDate
  have hmoves := (run_moves hne (rebased db target source fromDate) (u := ⟨⟩) hnd).mpr
    ⟨noSharedDay_iff.1 h, rfl⟩
  obtain ⟨db', hshift, hget⟩ := run_shiftLaterStats hne { db with
    playerStats := moveAll db.playerStats target source (rebased db target source fromDate)
      (statsToMigrate db source fromDate toDate) } toDate (lastDelta db source fromDate toDate)
  have hrun : (updatePlayerStats target source fromDate toDate).run db =
      .ok ((statsToMigrate db source fromDate toDate).length, db') := by
    rw [updatePlayerStats_eq]
    exact run_bind_ok.2 ⟨_, _, hmoves, run_bind_ok.2 ⟨_, _, hshift, rfl⟩⟩
  refine ⟨_, db', hrun, fun playerId day => ?_⟩
  rw [hget, get_moveAll _ hnd, find_statsToMigrate]
  unfold migratedRow
  dsimp only
  by_cases htarget : playerId = target
  · subst htarget
    simp only [if_true]
    by_cases hday : isBetween fromDate toDate (statsDate day)
    · cases hrow : db.playerStats.get (source, day) with
      | none =>
        have hshift := shiftedAfter_eq_id (not_later hday) (windowDelta db source fromDate toDate)
        simp [hday, not_later hday, InsertionMap.has, hrow, hshift]
      | some stats => simp [hday, not_later hday, InsertionMap.has, hrow]
    · simp only [hday, Bool.false_eq_true, if_false, false_and, Option.map_none, Option.none_or]
      refine congrArg (Option.map · _) (funext fun stats => ?_)
      unfold shiftedAfter
      split_ifs with hlater
      · rw [lastDelta_eq hlater]
      · rfl
  · by_cases hsource : playerId = source
    · subst hsource
      simp only [htarget, if_false, if_true, true_and]
      by_cases hday : isBetween fromDate toDate (statsDate day)
      · cases db.playerStats.get (playerId, day) <;> simp [hday]
      · simp only [hday, Bool.false_eq_true, if_false, Option.isSome_none]
        refine congrArg (Option.map · _) (funext fun stats => ?_)
        unfold shiftedAfter
        split_ifs with hlater
        · rw [lastDelta_eq hlater]
        · rfl
    · simp [htarget, hsource]

/-! ### Totals -/

/-- Every row is what a migration makes of it. -/
def Migrates (db db' : Accounts Custom Own) (target source : ℕ) (fromDate toDate : Option ℤ) :
    Prop :=
  ∀ playerId day, db'.playerStats.get (playerId, day) =
    migratedRow db target source fromDate toDate playerId day

/-- In the window the players take turns: at the days that have a row of the one, the other has
gained nothing there. -/
structure TakeTurns (db : Accounts Custom Own) (target source : ℕ)
    (fromDate toDate : Option ℤ) : Prop where
  noSharedDay : NoSharedDay db target source fromDate toDate
  source_idle : ∀ r ∈ series db target, isBetween fromDate toDate r.1 →
    gainedIn (series db source) fromDate toDate r.1 = 0
  target_idle : ∀ r ∈ series db source, isBetween fromDate toDate r.1 →
    gainedIn (series db target) fromDate toDate r.1 = 0

lemma gainedIn_later {t : ℤ} (ht : toDate.any (· < t)) :
    gainedIn (series db source) fromDate toDate t = windowDelta db source fromDate toDate := by
  cases toDate with
  | none => cases ht
  | some e =>
    have he : e < t := by simpa using ht
    refine gainedIn_eq_of_between he.le fun r _ hr hlt => ?_
    have hle : r.1 ≤ e := by simpa using (Bool.and_eq_true_iff.mp hr).2
    exact absurd hlt hle.not_gt

lemma gainedIn_before {t : ℤ} (hwindow : ¬ isBetween fromDate toDate t)
    (hlater : ¬ toDate.any (· < t)) : gainedIn (series db source) fromDate toDate t = 0 := by
  refine gainedIn_of_none fun r _ hr => ?_
  have hto : toDate.all (t ≤ ·) := by
    cases toDate with
    | none => rfl
    | some e => simpa using hlater
  have hfrom : ¬ fromDate.all (· < t) := fun h => hwindow (Bool.and_eq_true_iff.mpr ⟨h, hto⟩)
  cases fromDate with
  | none => exact absurd rfl hfrom
  | some s =>
    have ht : t ≤ s := by simpa using hfrom
    have hs : s < r.1 := by simpa using (Bool.and_eq_true_iff.mp hr).1
    exact ht.trans_lt hs

lemma mem_series_target (h : Migrates db db' target source fromDate toDate) {r' : ℤ × PlayerStats}
    (hr' : r' ∈ series db' target) :
    (∃ r ∈ series db source, r.1 = r'.1 ∧ isBetween fromDate toDate r'.1 ∧
        r'.2 = rebased db target source fromDate r.2) ∨
      ∃ r ∈ series db target, r.1 = r'.1 ∧
        r'.2 = shiftedAfter toDate r'.1 (windowDelta db source fromDate toDate) r.2 := by
  obtain ⟨day, hday, hget⟩ := mem_series.1 hr'
  rw [h, migratedRow, if_pos rfl] at hget
  split_ifs at hget with hmoved
  · obtain ⟨stats, hstats, hvalue⟩ := Option.map_eq_some_iff.mp hget
    exact .inl ⟨(r'.1, stats), mem_series.2 ⟨day, hday, hstats⟩, rfl, hday ▸ hmoved.1,
      hvalue.symm⟩
  · obtain ⟨stats, hstats, hvalue⟩ := Option.map_eq_some_iff.mp hget
    refine .inr ⟨(r'.1, stats), mem_series.2 ⟨day, hday, hstats⟩, rfl, ?_⟩
    rw [← hday]
    exact hvalue.symm

lemma exists_series_target (h : Migrates db db' target source fromDate toDate)
    {r : ℤ × PlayerStats} (hr : r ∈ series db target ∨
      r ∈ series db source ∧ isBetween fromDate toDate r.1) :
    ∃ r' ∈ series db' target, r'.1 = r.1 := by
  have hsome : ∃ day stats, statsDate day = r.1 ∧
      migratedRow db target source fromDate toDate target day = some stats := by
    rcases hr with hr | ⟨hr, hwindow⟩
    · obtain ⟨day, hday, hget⟩ := mem_series.1 hr
      refine ⟨day, ?_⟩
      rw [migratedRow, if_pos rfl]
      split_ifs with hmoved
      · obtain ⟨stats, hstats⟩ := Option.isSome_iff_exists.mp hmoved.2
        exact ⟨_, hday, by rw [hstats]; rfl⟩
      · exact ⟨_, hday, by rw [hget]; rfl⟩
    · obtain ⟨day, hday, hget⟩ := mem_series.1 hr
      refine ⟨day, rebased db target source fromDate r.2, hday, ?_⟩
      rw [migratedRow, if_pos rfl, if_pos ⟨hday ▸ hwindow, by rw [InsertionMap.has, hget]; rfl⟩,
        hget]
      rfl
  obtain ⟨day, stats, hday, hstats⟩ := hsome
  exact ⟨(r.1, stats), mem_series.2 ⟨day, hday, (h target day).trans hstats⟩, rfl⟩

lemma total_target (h : Migrates db db' target source fromDate toDate)
    (hturns : TakeTurns db target source fromDate toDate) (t : ℤ) :
    total (series db' target) t =
      total (series db target) t + gainedIn (series db source) fromDate toDate t := by
  refine total_eq_of (chronological_series db' target)
    (f := fun t => total (series db target) t + gainedIn (series db source) fromDate toDate t)
    (fun t hnone => ?_)
    (fun s t hst hbetween => ?_) (fun r' hr' => ?_) t
  · have htarget : ∀ r ∈ series db target, t < r.1 := by
      intro r hr
      obtain ⟨r', hr', heq⟩ := exists_series_target h (.inl hr)
      exact heq ▸ hnone r' hr'
    have hsource : ∀ r ∈ series db source, between fromDate toDate r.1 → t < r.1 := by
      intro r hr hwindow
      obtain ⟨r', hr', heq⟩ := exists_series_target h (.inr ⟨hr, hwindow⟩)
      exact heq ▸ hnone r' hr'
    rw [total_of_none htarget, gainedIn_of_none hsource, add_zero]
  · have htarget : ∀ r ∈ series db target, s < r.1 → t < r.1 := by
      intro r hr
      obtain ⟨r', hr', heq⟩ := exists_series_target h (.inl hr)
      exact heq ▸ hbetween r' hr'
    have hsource : ∀ r ∈ series db source, between fromDate toDate r.1 → s < r.1 → t < r.1 := by
      intro r hr hwindow
      obtain ⟨r', hr', heq⟩ := exists_series_target h (.inr ⟨hr, hwindow⟩)
      exact heq ▸ hbetween r' hr'
    rw [total_eq_of_between hst htarget, gainedIn_eq_of_between hst hsource]
  · rcases mem_series_target h hr' with ⟨r, hr, hdate, hwindow, hvalue⟩ | ⟨r, hr, hdate, hvalue⟩
    · have hidle := hturns.target_idle r hr (hdate ▸ hwindow)
      rw [hdate, gainedIn_of_between (chronological_series db target) hwindow,
        sub_eq_zero] at hidle
      rw [gainedIn_of_between (chronological_series db source) hwindow, hidle, hvalue, ← hdate,
        total_of_mem (chronological_series db source) hr]
      rfl
    · rw [← hdate, total_of_mem (chronological_series db target) hr, hvalue, shiftedAfter]
      split_ifs with hlater
      · rw [gainedIn_later (hdate ▸ hlater)]
      · have hidle : gainedIn (series db source) fromDate toDate r.1 = 0 := by
          by_cases hwindow : isBetween fromDate toDate r.1
          · exact hturns.source_idle r hr hwindow
          · exact gainedIn_before hwindow (hdate ▸ hlater)
        rw [hidle, add_zero]

lemma mem_series_source (hne : target ≠ source)
    (h : Migrates db db' target source fromDate toDate) {r' : ℤ × PlayerStats} :
    r' ∈ series db' source ↔ ¬ isBetween fromDate toDate r'.1 ∧ ∃ r ∈ series db source,
      r.1 = r'.1 ∧
        r'.2 = shiftedAfter toDate r'.1 (-windowDelta db source fromDate toDate) r.2 := by
  rw [mem_series]
  constructor
  · rintro ⟨day, hday, hget⟩
    rw [h, migratedRow, if_neg hne.symm, if_pos rfl] at hget
    split_ifs at hget with hwindow
    obtain ⟨stats, hstats, hvalue⟩ := Option.map_eq_some_iff.mp hget
    rw [hday] at hwindow hvalue
    exact ⟨hwindow, (r'.1, stats), mem_series.2 ⟨day, hday, hstats⟩, rfl, hvalue.symm⟩
  · rintro ⟨hwindow, r, hr, hdate, hvalue⟩
    obtain ⟨day, hday, hget⟩ := mem_series.1 hr
    refine ⟨day, hday.trans hdate, ?_⟩
    rw [h, migratedRow, if_neg hne.symm, if_pos rfl, if_neg (by rwa [hday, hdate]), hget, hvalue,
      hday, hdate]
    rfl

lemma exists_series_source (hne : target ≠ source)
    (h : Migrates db db' target source fromDate toDate) {r : ℤ × PlayerStats}
    (hr : r ∈ series db source) (hwindow : between fromDate toDate r.1 = false) :
    ∃ r' ∈ series db' source, r'.1 = r.1 :=
  ⟨(r.1, shiftedAfter toDate r.1 (-windowDelta db source fromDate toDate) r.2),
    (mem_series_source hne h).mpr
    ⟨(Bool.not_eq_true _).mpr hwindow, r, hr, rfl, rfl⟩, rfl⟩

lemma total_source (hne : target ≠ source) (h : Migrates db db' target source fromDate toDate)
    (t : ℤ) : total (series db' source) t =
      total (series db source) t - gainedIn (series db source) fromDate toDate t := by
  refine total_eq_of (chronological_series db' source)
    (f := fun t => total (series db source) t - gainedIn (series db source) fromDate toDate t)
    (fun t hnone => ?_)
    (fun s t hst hbetween => ?_) (fun r' hr' => ?_) t
  · rw [total_sub_gainedIn (chronological_series db source)]
    refine gained_of_none fun r hr => ?_
    cases hwindow : between fromDate toDate r.1 with
    | true => rfl
    | false =>
      obtain ⟨r', hr', hdate⟩ := exists_series_source hne h hr hwindow
      simpa [hdate] using hnone r' hr'
  · rw [total_sub_gainedIn (chronological_series db source),
      total_sub_gainedIn (chronological_series db source)]
    refine gained_congr fun r hr => ?_
    cases hwindow : between fromDate toDate r.1 with
    | true => rfl
    | false =>
      obtain ⟨r', hr', hdate⟩ := exists_series_source hne h hr hwindow
      have hlt := hbetween r' hr'
      rw [hdate] at hlt
      simp only [Bool.not_false, Bool.true_and, decide_eq_decide]
      exact ⟨fun ht => not_lt.mp fun hs => ht.not_gt (hlt hs), fun hs => hs.trans hst⟩
  · obtain ⟨hwindow, r, hr, hdate, hvalue⟩ := (mem_series_source hne h).mp hr'
    rw [← hdate, total_of_mem (chronological_series db source) hr, hvalue, shiftedAfter]
    split_ifs with hlater
    · rw [gainedIn_later (hdate ▸ hlater), sub_eq_add_neg]
    · rw [gainedIn_before (hdate ▸ hwindow) (hdate ▸ hlater), sub_zero]

/-- What a migration is to do: the increments of the source in the window count for the target
from their dates on, and for the source no longer. -/
structure Moved (db db' : Accounts Custom Own) (target source : ℕ) (fromDate toDate : Option ℤ) :
    Prop where
  gains : ∀ t, total (series db' target) t =
    total (series db target) t + gainedIn (series db source) fromDate toDate t
  loses : ∀ t, total (series db' source) t =
    total (series db source) t - gainedIn (series db source) fromDate toDate t
  sum : ∀ t, total (series db' target) t + total (series db' source) t =
    total (series db target) t + total (series db source) t
  chronological : ∀ playerId, Chronological (series db' playerId)

/-- A migration succeeds, and does what it is to do. -/
def MovesStats (db : Accounts Custom Own) (target source : ℕ) (fromDate toDate : Option ℤ) :
    Prop :=
  ∃ n db', (updatePlayerStats target source fromDate toDate).run db = .ok (n, db') ∧
    Moved db db' target source fromDate toDate

lemma migrates_of_run (hne : target ≠ source) {n : ℕ}
    (h : (updatePlayerStats target source fromDate toDate).run db = .ok (n, db')) :
    Migrates db db' target source fromDate toDate := by
  obtain ⟨_, _, hrun, hget⟩ := run_updatePlayerStats hne (noSharedDay_of_run hne h)
  rw [h] at hrun
  cases hrun
  exact hget

lemma moved_of_takeTurns (hne : target ≠ source)
    (hturns : TakeTurns db target source fromDate toDate) :
    MovesStats db target source fromDate toDate := by
  obtain ⟨n, db', hrun, hget⟩ := run_updatePlayerStats hne hturns.noSharedDay
  have htarget := total_target hget hturns
  have hsource := total_source hne hget
  refine ⟨n, db', hrun, htarget, hsource, fun t => ?_, chronological_series db'⟩
  rw [htarget, hsource, add_add_sub_cancel]

lemma takeTurns_of_moved (hne : target ≠ source)
    (h : MovesStats db target source fromDate toDate) :
    TakeTurns db target source fromDate toDate := by
  obtain ⟨n, db', hrun, hmoved⟩ := h
  have hget := migrates_of_run hne hrun
  have hshared := noSharedDay_of_run hne hrun
  refine ⟨hshared, fun r hr hwindow => ?_, fun r hr hwindow => ?_⟩
  · obtain ⟨day, hday, hrow⟩ := mem_series.1 hr
    have hhas : db.playerStats.has (source, day) = false := by
      by_contra hhas
      have hnone := hshared day (hday ▸ hwindow) (by simpa using hhas)
      rw [InsertionMap.has, hrow] at hnone
      cases hnone
    have hr' : r ∈ series db' target := by
      refine mem_series.2 ⟨day, hday, ?_⟩
      rw [hget, migratedRow, if_pos rfl, if_neg (by simp [hhas]), hrow, Option.map_some,
        shiftedAfter_eq_id (not_later (hday ▸ hwindow))]
      rfl
    have htotal := hmoved.gains r.1
    rw [total_of_mem (chronological_series db' target) hr',
      total_of_mem (chronological_series db target) hr] at htotal
    exact left_eq_add.mp htotal
  · obtain ⟨day, hday, hrow⟩ := mem_series.1 hr
    have hr' : (r.1, rebased db target source fromDate r.2) ∈ series db' target := by
      refine mem_series.2 ⟨day, hday, ?_⟩
      have hhas : db.playerStats.has (source, day) := by
        rw [InsertionMap.has, hrow]
        rfl
      rw [hget, migratedRow, if_pos rfl, if_pos ⟨hday ▸ hwindow, hhas⟩, hrow]
      rfl
    have htotal := hmoved.gains r.1
    rw [total_of_mem (chronological_series db' target) hr',
      gainedIn_of_between (chronological_series db source) hwindow,
      total_of_mem (chronological_series db source) hr] at htotal
    rw [gainedIn_of_between (chronological_series db target) hwindow, sub_eq_zero]
    exact (add_right_cancel htotal).symm

end Migration

/-! ### Several sources -/

section Sources

variable {target source other : ℕ} {fromDate toDate : Option ℤ} {db db₁ : Accounts Custom Own}

lemma series_congr {playerId : ℕ}
    (h : ∀ day, db₁.playerStats.get (playerId, day) = db.playerStats.get (playerId, day)) :
    series db₁ playerId = series db playerId := by
  have hperm : (statsOf db₁ playerId).Perm (statsOf db playerId) := by
    refine (List.perm_ext_iff_of_nodup ?_ ?_).mpr fun row => ?_
    · exact (pairwise_statsOf db₁ playerId).imp fun hlt => ne_of_apply_ne Prod.fst hlt.ne
    · exact (pairwise_statsOf db playerId).imp fun hlt => ne_of_apply_ne Prod.fst hlt.ne
    · rw [mem_statsOf, mem_statsOf, h]
  have heq := hperm.eq_of_pairwise (fun a b _ _ hab hba => absurd hab hba.not_gt)
    (pairwise_statsOf db₁ playerId) (pairwise_statsOf db playerId)
  exact congrArg (List.map _) heq

lemma Migrates.keeps (h : Migrates db db₁ target source fromDate toDate) (htarget : other ≠ target)
    (hsource : other ≠ source) (day : ℕ) :
    db₁.playerStats.get (other, day) = db.playerStats.get (other, day) := by
  rw [h, migratedRow, if_neg htarget, if_neg hsource]

lemma Migrates.base_target (h : Migrates db db₁ target source fromDate toDate) :
    base (series db₁ target) fromDate = base (series db target) fromDate := by
  cases fromDate with
  | none => rfl
  | some s =>
    change total _ s = total _ s
    unfold total
    rw [lastUpTo_congr (chronological_series db₁ target) (chronological_series db target)]
    intro r hr
    rw [mem_series, mem_series]
    refine exists_congr fun day => and_congr_right fun hday => ?_
    have hwindow : ¬ isBetween (some s) toDate (statsDate day) := by
      intro hwindow
      have hs : s < statsDate day := by simpa using (Bool.and_eq_true_iff.mp hwindow).1
      exact (hday ▸ hr).not_gt hs
    rw [h, migratedRow, if_pos rfl, if_neg fun hmoved => hwindow hmoved.1]
    have hid : shiftedAfter toDate (statsDate day) (windowDelta db source (some s) toDate) =
        id := by
      by_cases hlater : toDate.any (· < statsDate day)
      · -- a window that ends before it begins is empty
        have hempty : windowDelta db source (some s) toDate = 0 := by
          rw [← gainedIn_later hlater]
          refine gainedIn_of_none fun r' _ hr' => ?_
          have hs : s < r'.1 := by simpa using (Bool.and_eq_true_iff.mp hr').1
          exact (hday ▸ hr).trans_lt hs
        rw [hempty]
        funext stats
        simp [shiftedAfter]
      · exact shiftedAfter_eq_id hlater _
    rw [hid, Option.map_id]
    rfl

lemma Migrates.next (h : Migrates db db₁ target source fromDate toDate) (htarget : other ≠ target)
    (hsource : other ≠ source) :
    rebased db₁ target other fromDate = rebased db target other fromDate ∧
      windowDelta db₁ other fromDate toDate = windowDelta db other fromDate toDate ∧
      ∀ day, db₁.playerStats.has (other, day) = db.playerStats.has (other, day) := by
  have hseries : series db₁ other = series db other := series_congr (h.keeps htarget hsource)
  refine ⟨?_, by rw [windowDelta, hseries]; rfl, fun day => ?_⟩
  · unfold rebased
    rw [h.base_target, hseries]
  · rw [InsertionMap.has, h.keeps htarget hsource]
    rfl

lemma Migrates.has_target (h : Migrates db db₁ target source fromDate toDate) {day : ℕ}
    (hwindow : isBetween fromDate toDate (statsDate day)) :
    db₁.playerStats.has (target, day) =
      (db.playerStats.has (source, day) || db.playerStats.has (target, day)) := by
  rw [InsertionMap.has, h, migratedRow, if_pos rfl]
  cases hhas : db.playerStats.has (source, day) with
  | true =>
    rw [if_pos ⟨hwindow, rfl⟩, Option.isSome_map]
    exact hhas.trans (Bool.true_or _).symm
  | false =>
    rw [if_neg (by simp), Option.isSome_map]
    rfl

lemma noSharedDay_next (h : Migrates db db₁ target source fromDate toDate)
    (htarget : other ≠ target) (hsource : other ≠ source) :
    NoSharedDay db₁ target other fromDate toDate ↔
      NoSharedDay db target other fromDate toDate ∧
        NoSharedDay db source other fromDate toDate := by
  have hhas := (h.next htarget hsource).2.2
  constructor
  · intro hshared
    have hboth : ∀ day, isBetween fromDate toDate (statsDate day) →
        db.playerStats.has (other, day) → db.playerStats.has (source, day) = false ∧
          db.playerStats.has (target, day) = false := by
      intro day hwindow hday
      have hnone := hshared day hwindow ((hhas day).trans hday)
      rw [h.has_target hwindow] at hnone
      exact Bool.or_eq_false_iff.mp hnone
    exact ⟨fun day hwindow hday => (hboth day hwindow hday).2,
      fun day hwindow hday => (hboth day hwindow hday).1⟩
  · rintro ⟨htarget', hsource'⟩ day hwindow hday
    rw [hhas] at hday
    rw [h.has_target hwindow, htarget' day hwindow hday, hsource' day hwindow hday]
    rfl

lemma NoSharedDay.symm (h : NoSharedDay db target source fromDate toDate) :
    NoSharedDay db source target fromDate toDate := by
  intro day hwindow hday
  by_contra hhas
  rw [h day hwindow (by simpa using hhas)] at hday
  cases hday

def migrateBoth (target first second : ℕ) (fromDate toDate : Option ℤ) : Tx Custom Own ℕ := do
  let moved ← updatePlayerStats target first fromDate toDate
  let moved' ← updatePlayerStats target second fromDate toDate
  return moved + moved'

/-- Two sources can be migrated in either order, which gives the same totals. -/
def EitherOrder (db : Accounts Custom Own) (target source other : ℕ) (fromDate toDate : Option ℤ) :
    Prop :=
  ∃ n n' db₁ db₂, (migrateBoth target source other fromDate toDate).run db = .ok (n, db₁) ∧
    (migrateBoth target other source fromDate toDate).run db = .ok (n', db₂) ∧
    ∀ playerId t, total (series db₁ playerId) t = total (series db₂ playerId) t

lemma Migrates.get_source (h : Migrates db db₁ target source fromDate toDate)
    (hne : source ≠ target) (day : ℕ) : db₁.playerStats.get (source, day) =
      if isBetween fromDate toDate (statsDate day) then none
      else (db.playerStats.get (source, day)).map
        (shiftedAfter toDate (statsDate day) (-windowDelta db source fromDate toDate)) := by
  rw [h, migratedRow, if_neg hne, if_pos rfl]

lemma Migrates.get_target (h : Migrates db db₁ target source fromDate toDate) (day : ℕ) :
    db₁.playerStats.get (target, day) =
      if isBetween fromDate toDate (statsDate day) ∧ db.playerStats.has (source, day) then
        (db.playerStats.get (source, day)).map (rebased db target source fromDate)
      else (db.playerStats.get (target, day)).map
        (shiftedAfter toDate (statsDate day) (windowDelta db source fromDate toDate)) := by
  rw [h, migratedRow, if_pos rfl]

lemma shiftedAfter_comm (toDate : Option ℤ) (t : ℤ) (delta delta' : PlayerStats) :
    shiftedAfter toDate t delta ∘ shiftedAfter toDate t delta' =
      shiftedAfter toDate t delta' ∘ shiftedAfter toDate t delta := by
  funext stats
  simp only [Function.comp_apply, shiftedAfter]
  split_ifs
  · exact add_right_comm _ _ _
  · rfl

lemma Migrates.comm {db₂ db₁' db₂' : Accounts Custom Own} (hsource : source ≠ target)
    (hother : other ≠ target) (hne : other ≠ source)
    (hshared : NoSharedDay db source other fromDate toDate)
    (h₁ : Migrates db db₁ target source fromDate toDate)
    (h₂ : Migrates db₁ db₂ target other fromDate toDate)
    (h₁' : Migrates db db₁' target other fromDate toDate)
    (h₂' : Migrates db₁' db₂' target source fromDate toDate) (playerId day : ℕ) :
    db₂.playerStats.get (playerId, day) = db₂'.playerStats.get (playerId, day) := by
  obtain ⟨hrebased, hdelta, hhas⟩ := h₁.next hother hne
  obtain ⟨hrebased', hdelta', hhas'⟩ := h₁'.next hsource hne.symm
  by_cases htarget : playerId = target
  · subst htarget
    rw [h₂.get_target, h₂'.get_target, hrebased, hdelta, hhas, hrebased', hdelta', hhas',
      h₁.keeps hother hne, h₁'.keeps hsource hne.symm, h₁.get_target, h₁'.get_target]
    by_cases hwindow : isBetween fromDate toDate (statsDate day)
    · simp only [shiftedAfter_eq_id (not_later hwindow), Option.map_id, id, hwindow, true_and]
      by_cases hday : db.playerStats.has (other, day)
      · simp [hday, hshared day hwindow hday]
      · simp [hday]
    · simp only [hwindow, Bool.false_eq_true, false_and, if_false, Option.map_map]
      rw [shiftedAfter_comm]
  · by_cases hplayer : playerId = source
    · subst hplayer
      rw [h₂.keeps hsource hne.symm, h₂'.get_source hsource, h₁.get_source hsource, hdelta',
        h₁'.keeps hsource hne.symm]
    · by_cases hplayer' : playerId = other
      · subst hplayer'
        rw [h₂'.keeps hother hne, h₂.get_source hother, h₁'.get_source hother, hdelta,
          h₁.keeps hother hne]
      · rw [h₂.keeps htarget hplayer', h₁.keeps htarget hplayer, h₂'.keeps htarget hplayer,
          h₁'.keeps htarget hplayer']

lemma run_migrateBoth (hsource : source ≠ target) (hother : other ≠ target) (hne : other ≠ source)
    (htarget : NoSharedDay db target source fromDate toDate)
    (htarget' : NoSharedDay db target other fromDate toDate)
    (hshared : NoSharedDay db source other fromDate toDate) :
    ∃ n db₁ db₂, (migrateBoth target source other fromDate toDate).run db = .ok (n, db₂) ∧
      Migrates db db₁ target source fromDate toDate ∧
      Migrates db₁ db₂ target other fromDate toDate := by
  obtain ⟨n, db₁, hrun, h₁⟩ := run_updatePlayerStats hsource.symm htarget
  obtain ⟨n', db₂, hrun', h₂⟩ := run_updatePlayerStats hother.symm
    ((noSharedDay_next h₁ hother hne).mpr ⟨htarget', hshared⟩)
  exact ⟨n + n', db₁, db₂, run_bind_ok.2 ⟨n, db₁, hrun, run_bind_ok.2 ⟨n', db₂, hrun', rfl⟩⟩,
    h₁, h₂⟩

lemma noSharedDay_of_migrateBoth (hsource : source ≠ target) (hother : other ≠ target)
    (hne : other ≠ source) {n : ℕ}
    (h : (migrateBoth target source other fromDate toDate).run db = .ok (n, db₁)) :
    NoSharedDay db target source fromDate toDate ∧ NoSharedDay db target other fromDate toDate ∧
      NoSharedDay db source other fromDate toDate := by
  obtain ⟨_, _, hrun, h⟩ := run_bind_ok.1 h
  obtain ⟨_, _, hrun', -⟩ := run_bind_ok.1 h
  exact ⟨noSharedDay_of_run hsource.symm hrun,
    (noSharedDay_next (migrates_of_run hsource.symm hrun) hother hne).mp
      (noSharedDay_of_run hother.symm hrun')⟩

/-- Two sources can be migrated exactly if no two of the three players have statistics of one day
in the window, and then the order does not matter. -/
lemma eitherOrder_iff (hsource : source ≠ target) (hother : other ≠ target)
    (hne : other ≠ source) : EitherOrder db target source other fromDate toDate ↔
      NoSharedDay db target source fromDate toDate ∧
        NoSharedDay db target other fromDate toDate ∧
        NoSharedDay db source other fromDate toDate := by
  constructor
  · rintro ⟨_, _, _, _, hrun, -, -⟩
    exact noSharedDay_of_migrateBoth hsource hother hne hrun
  · rintro ⟨htarget, htarget', hshared⟩
    obtain ⟨n, db₁, db₂, hrun, h₁, h₂⟩ :=
      run_migrateBoth hsource hother hne htarget htarget' hshared
    obtain ⟨n', db₁', db₂', hrun', h₁', h₂'⟩ :=
      run_migrateBoth hother hsource hne.symm htarget' htarget hshared.symm
    refine ⟨n, n', db₂, db₂', hrun, hrun', fun playerId t => ?_⟩
    rw [series_congr (Migrates.comm hsource hother hne hshared h₁ h₂ h₁' h₂' playerId)]

end Sources

/-- A migration moves what the source has gained exactly if in the window the players take turns,
and two sources can be migrated in either order exactly if no day there is shared. -/
theorem stats_move_with_player (db : Accounts Custom Own) {target source : ℕ}
    (hne : source ≠ target) (fromDate toDate : Option ℤ) :
    (MovesStats db target source fromDate toDate ↔
        TakeTurns db target source fromDate toDate) ∧
      ∀ other, other ≠ target → other ≠ source →
        (EitherOrder db target source other fromDate toDate ↔
          NoSharedDay db target source fromDate toDate ∧
            NoSharedDay db target other fromDate toDate ∧
            NoSharedDay db source other fromDate toDate) :=
  ⟨⟨takeTurns_of_moved hne.symm, moved_of_takeTurns hne.symm⟩,
    fun _ hother hother' => eitherOrder_iff hne hother hother'⟩

/-! ### Two players -/

section Examples

/-- Statistics of two players, who have completed some Theatres up to some days. -/
def completions (rows : List ((ℕ × ℕ) × ℤ)) : Accounts Unit Unit where
  challenges := ∅
  processingState := ∅
  challengePlayers := ∅
  recordedChallenges := ∅
  challengeSplits := ∅
  personalBestHistory := ∅
  queryableEvents := ∅
  sessions := ∅
  players := ∅
  playerStats := (∅ : InsertionMap (ℕ × ℕ) PlayerStats).setAll (rows.map fun row =>
    (row.1, Function.update 0 .tobCompletions row.2))
  processorRows := ∅
  experience := ∅
  apiKeys := ∅
  nameChanges := ∅

/-- Both have gained something after the first day, each on a day of its own. -/
def interleaved : Accounts Unit Unit :=
  completions [((1, 1), 10), ((1, 3), 15), ((2, 1), 4), ((2, 2), 6)]

/-- Of 21 completions 19 are left: what the source has gained is not added to the target's later
row. -/
theorem interleaved_gain_is_lost :
    ¬ MovesStats interleaved 1 2 (some (statsDate 1)) none := by
  rintro ⟨n, db', hrun, hmoved⟩
  have hsum := congrFun (hmoved.sum (statsDate 3)) .tobCompletions
  have hbefore : (total (series interleaved 1) (statsDate 3) +
      total (series interleaved 2) (statsDate 3)) .tobCompletions = 21 := by
    decide
  have hafter : (((updatePlayerStats 1 2 (some (statsDate 1)) none).run interleaved).toOption.elim
      0 fun r => (total (series r.2 1) (statsDate 3) +
        total (series r.2 2) (statsDate 3)) .tobCompletions) = 19 := by
    decide
  rw [hrun] at hafter
  have hequal : (19 : ℤ) = 21 := hafter.symm.trans (hsum.trans hbefore)
  cases hequal

/-- A source that has gained something in the window, where the target has nothing. -/
def consecutive : Accounts Unit Unit :=
  completions [((1, 1), 50), ((1, 5), 53), ((2, 1), 10), ((2, 2), 12), ((2, 3), 15), ((2, 5), 17)]

lemma consecutive_target_idle : ∀ r ∈ series consecutive 1,
    isBetween (some (statsDate 1)) (some (statsDate 4)) r.1 = false := by
  have hdates : ((series consecutive 1).map Prod.fst).all fun t =>
      !isBetween (some (statsDate 1)) (some (statsDate 4)) t := by
    decide
  intro r hr
  simpa using List.all_eq_true.mp hdates r.1 (List.mem_map_of_mem hr)

/-- What the source has gained moves. -/
theorem stats_move_with_player_consecutive :
    MovesStats consecutive 1 2 (some (statsDate 1)) (some (statsDate 4)) := by
  refine (stats_move_with_player consecutive (by decide) _ _).1.mpr ⟨?_, ?_, ?_⟩
  · intro day hwindow hday
    by_contra hhas
    obtain ⟨stats, hstats⟩ := Option.isSome_iff_exists.mp (Bool.not_eq_false _ ▸ hhas)
    have hidle := consecutive_target_idle (statsDate day, stats)
      (mem_series.2 ⟨day, rfl, hstats⟩)
    rw [hwindow] at hidle
    cases hidle
  · intro r hr hwindow
    rw [consecutive_target_idle r hr] at hwindow
    cases hwindow
  · intro r hr hwindow
    refine gainedIn_of_none fun r' hr' hwindow' => ?_
    rw [show between _ _ r'.1 = false from consecutive_target_idle r' hr'] at hwindow'
    cases hwindow'

end Examples

end Blert.Names
