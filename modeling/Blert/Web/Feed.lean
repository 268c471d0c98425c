import Blert.Keyset
import Mathlib.Algebra.Order.Group.Int
import Mathlib.Algebra.Order.Group.Unbundled.Basic
import Mathlib.Data.Prod.Lex

/-!
The feed of the players that a user follows.

The sessions, personal bests and name changes are fetched apart, merged in the order of time, kind
and id, and cut to a page. The next page is asked for by a cursor that names an item of this one.
The database has times in microseconds, but the items and with them the cursor have the whole
milliseconds only, and the query compares the one with the other.
-/

namespace Blert.Feed

open Keyset

inductive FeedItemType
  | session | personalBest | nameChange
  deriving DecidableEq

def FeedItemType.priority : FeedItemType → ℕ
  | .session => 0
  | .personalBest => 1
  | .nameChange => 2

/-- An item with the time that the database has for it, in microseconds. -/
structure FeedItem where
  type : FeedItemType
  id : ℕ
  id_pos : 0 < id
  time : ℤ
  deriving DecidableEq

def FeedItem.timestamp (item : FeedItem) : ℤ := item.time / 1000

structure FeedCursor where
  timestamp : ℤ
  type : FeedItemType
  id : ℕ

inductive Direction
  | older | newer
  deriving DecidableEq

def encodeFeedCursor (item : FeedItem) : FeedCursor := ⟨item.timestamp, item.type, item.id⟩

def decodeFeedCursor (cursor : FeedCursor) : Option FeedCursor :=
  if 0 < cursor.id then some cursor else none

def cursorCondition (cursor : FeedCursor) (direction : Direction) (row : FeedItem) : Bool :=
  match direction with
  | .older =>
    row.time < 1000 * cursor.timestamp ||
      (row.time = 1000 * cursor.timestamp && (cursor.type.priority < row.type.priority ||
        (row.type.priority = cursor.type.priority && row.id < cursor.id)))
  | .newer =>
    1000 * cursor.timestamp < row.time ||
      (row.time = 1000 * cursor.timestamp && (row.type.priority < cursor.type.priority ||
        (row.type.priority = cursor.type.priority && cursor.id < row.id)))

/-- The rows of a kind are ordered by their own times. -/
def FeedItem.rowRank (item : FeedItem) : ℤ ×ₗ ℤ := toLex (-item.time, -(item.id : ℤ))

/-- The items of the feed are ordered by the times read, their kinds and their ids. -/
def FeedItem.rank (item : FeedItem) : ℤ ×ₗ ℕ ×ₗ ℤ :=
  toLex (-item.timestamp, toLex (item.type.priority, -(item.id : ℤ)))

def rowsBeyond (items : List FeedItem) (cursor : Option FeedCursor) (direction : Direction) :
    List FeedItem :=
  items.filter fun row => cursor.all fun c => cursorCondition c direction row

def fetchFeedItems (type : FeedItemType) (items : List FeedItem) (cursor : Option FeedCursor)
    (direction : Direction) (limit : ℕ) : List FeedItem :=
  (orderBy FeedItem.rowRank ((rowsBeyond items cursor direction).filter (·.type = type))).take
    (limit * 2)

def fetchSessionFeedItems := fetchFeedItems .session

def fetchPbFeedItems := fetchFeedItems .personalBest

def fetchNameChangeFeedItems := fetchFeedItems .nameChange

def loadFeed (items : List FeedItem) (cursor : Option FeedCursor) (direction : Direction)
    (limit : ℕ) : List FeedItem :=
  let cursor := cursor.bind decodeFeedCursor
  let allItems := fetchSessionFeedItems items cursor direction limit ++
    fetchPbFeedItems items cursor direction limit ++
    fetchNameChangeFeedItems items cursor direction limit
  (orderBy FeedItem.rank allItems).take limit

/-- What is loaded as the older cursor is followed, up to a number of times. -/
def loadOlder (items : List FeedItem) (limit : ℕ) : ℕ → Option FeedCursor → List FeedItem
  | 0, _ => []
  | n + 1, cursor =>
    let page := loadFeed items cursor .older limit
    match page.getLast? with
    | none => []
    | some last => page ++ loadOlder items limit n (some (encodeFeedCursor last))

/-! ### Order -/

lemma priority_inj {t t' : FeedItemType} : t.priority = t'.priority ↔ t = t' := by
  cases t <;> cases t' <;> simp [FeedItemType.priority]

variable {a b i j : FeedItem}

lemma rank_lt : a.rank < b.rank ↔ b.timestamp < a.timestamp ∨ a.timestamp = b.timestamp ∧
    (a.type.priority < b.type.priority ∨ a.type = b.type ∧ b.id < a.id) := by
  simp only [FeedItem.rank, Prod.Lex.toLex_lt_toLex, neg_lt_neg_iff, neg_inj, priority_inj]
  norm_cast

lemma rowRank_lt : a.rowRank < b.rowRank ↔ b.time < a.time ∨ a.time = b.time ∧ b.id < a.id := by
  simp only [FeedItem.rowRank, Prod.Lex.toLex_lt_toLex, neg_lt_neg_iff, neg_inj]
  norm_cast

/-- An item is beyond the cursor of another: it comes behind it, and if it is of the same
millisecond then of a whole one. -/
lemma cursorCondition_older : cursorCondition (encodeFeedCursor b) .older i ↔
    b.rank < i.rank ∧ (i.timestamp = b.timestamp → i.time = 1000 * i.timestamp) := by
  simp only [cursorCondition, Bool.or_eq_true, Bool.and_eq_true, decide_eq_true_eq, rank_lt]
  simp only [encodeFeedCursor, priority_inj, FeedItem.timestamp]
  constructor
  · rintro (h | ⟨h, h' | ⟨h', h''⟩⟩)
    · exact ⟨.inl (by omega), by omega⟩
    · exact ⟨.inr ⟨by omega, .inl h'⟩, by omega⟩
    · exact ⟨.inr ⟨by omega, .inr ⟨h'.symm, h''⟩⟩, by omega⟩
  · rintro ⟨h | ⟨h, h' | ⟨h', h''⟩⟩, hwhole⟩
    · exact .inl (by omega)
    · exact .inr ⟨by omega, .inl h'⟩
    · exact .inr ⟨by omega, .inr ⟨h'.symm, h''⟩⟩

lemma timestamp_le (h : a.rank ≤ b.rank) : b.timestamp ≤ a.timestamp := by
  rcases h.lt_or_eq with hlt | heq
  · rcases rank_lt.1 hlt with h | h
    · exact h.le
    · exact h.1.ge
  · exact (neg_injective (Prod.mk.inj (toLex.injective heq)).1).ge

/-- Behind an item there is none of its millisecond with a fraction. -/
def Whole (b : FeedItem) (rest : List FeedItem) : Prop :=
  ∀ i ∈ rest, i.timestamp = b.timestamp → i.time = 1000 * i.timestamp

/-- Items are told apart by their kinds and ids. -/
def Valid (items : List FeedItem) : Prop := (items.map fun i => (i.type, i.id)).Nodup

lemma Valid.rank {items : List FeedItem} (h : Valid items) :
    (items.map FeedItem.rank).Nodup := by
  refine List.pairwise_map.mpr ((List.pairwise_map.mp h).imp fun hne heq => hne ?_)
  obtain ⟨-, hinner⟩ := Prod.mk.inj (toLex.injective heq)
  obtain ⟨htype, hid⟩ := Prod.mk.inj (toLex.injective hinner)
  exact Prod.ext (priority_inj.1 htype) (by exact_mod_cast neg_injective hid)

lemma Valid.rowRank {items : List FeedItem} (h : Valid items) (type : FeedItemType) :
    ((items.filter (·.type = type)).map FeedItem.rowRank).Nodup := by
  refine List.pairwise_map.mpr (List.Pairwise.imp_of_mem ?_
    (List.pairwise_map.mp (h.sublist ((List.filter_sublist).map _))))
  intro a b ha hb hne heq
  have htype : a.type = b.type := by
    rw [of_decide_eq_true (List.mem_filter.mp ha).2, of_decide_eq_true (List.mem_filter.mp hb).2]
  obtain ⟨-, hid⟩ := Prod.mk.inj (toLex.injective heq)
  exact hne (Prod.ext htype (by exact_mod_cast neg_injective hid))

lemma Valid.filter {items : List FeedItem} (h : Valid items) (p : FeedItem → Bool) :
    Valid (items.filter p) := h.sublist ((List.filter_sublist).map _)

/-! ### Pages -/

variable {items : List FeedItem} {cursor : Option FeedCursor} {direction : Direction} {limit : ℕ}

def fetched (items : List FeedItem) (cursor : Option FeedCursor) (direction : Direction)
    (limit : ℕ) : List FeedItem :=
  fetchSessionFeedItems items cursor direction limit ++
    fetchPbFeedItems items cursor direction limit ++
    fetchNameChangeFeedItems items cursor direction limit

lemma mem_rowsBeyond {type : FeedItemType}
    (h : i ∈ fetchFeedItems type items cursor direction limit) :
    i ∈ rowsBeyond items cursor direction ∧ i.type = type := by
  simpa using (orderBy_perm _ _).mem_iff.mp (List.mem_of_mem_take h)

lemma mem_fetched : i ∈ fetched items cursor direction limit ↔
    i ∈ fetchFeedItems i.type items cursor direction limit := by
  simp only [fetched, fetchSessionFeedItems, fetchPbFeedItems, fetchNameChangeFeedItems,
    List.mem_append]
  constructor
  · rintro ((h | h) | h) <;> exact (mem_rowsBeyond h).2 ▸ h
  · intro h
    cases hi : i.type <;> rw [hi] at h <;> simp [h]

lemma fetched_subset :
    fetched items cursor direction limit ⊆ rowsBeyond items cursor direction :=
  fun _ hi => (mem_rowsBeyond (mem_fetched.1 hi)).1

lemma fetchFeedItems_nodup (h : Valid items) (type : FeedItemType) :
    (fetchFeedItems type items cursor direction limit).Nodup :=
  ((orderBy_perm _ _).nodup_iff.mpr (List.Nodup.of_map _ ((h.filter _).rowRank type))).sublist
    (List.take_sublist _ _)

/-- A row beyond the cursor is fetched, or the query of its kind returns as many rows as it may,
all of which come before it. -/
lemma mem_fetched_or (h : Valid items) (hi : i ∈ rowsBeyond items cursor direction) :
    i ∈ fetched items cursor direction limit ∨
      (fetchFeedItems i.type items cursor direction limit).length = limit * 2 ∧
        ∀ a ∈ fetchFeedItems i.type items cursor direction limit, a.rowRank < i.rowRank := by
  have hkind : i ∈ (rowsBeyond items cursor direction).filter (·.type = i.type) := by
    simpa using hi
  rw [mem_fetched]
  exact mem_take_or ((h.filter _).rowRank i.type) hkind (limit * 2)

lemma fetched_nodup (h : Valid items) : (fetched items cursor direction limit).Nodup := by
  have hne {t t' : FeedItemType} (ht : t ≠ t') :
      ∀ a ∈ fetchFeedItems t items cursor direction limit,
        ∀ b ∈ fetchFeedItems t' items cursor direction limit, a ≠ b := by
    rintro a ha _ hb rfl
    exact ht ((mem_rowsBeyond ha).2.symm.trans (mem_rowsBeyond hb).2)
  simp only [fetched, List.nodup_append, List.mem_append]
  refine ⟨⟨fetchFeedItems_nodup h _, fetchFeedItems_nodup h _, hne (by decide)⟩,
    fetchFeedItems_nodup h _, ?_⟩
  rintro a (ha | ha)
  · exact hne (by decide) a ha
  · exact hne (by decide) a ha

def beyond (items : List FeedItem) (cursor : Option FeedCursor) (direction : Direction) :
    List FeedItem := orderBy FeedItem.rank (rowsBeyond items cursor direction)

lemma mem_beyond : i ∈ beyond items cursor direction ↔
    i ∈ items ∧ cursor.all fun c => cursorCondition c direction i := by
  rw [beyond, (orderBy_perm _ _).mem_iff, rowsBeyond, List.mem_filter]

lemma beyond_pairwise (cursor : Option FeedCursor) (direction : Direction) (h : Valid items) :
    (beyond items cursor direction).Pairwise fun a b => a.rank < b.rank :=
  orderBy_pairwise (h.filter _).rank

/-- Twice as many rows of each kind as a page has are enough, unless a fraction behind the page
brings a row before one of the page. -/
lemma take_fetched (h : Valid items) (hlimit : 0 < limit)
    (hwhole : ∀ b ∈ ((beyond items cursor direction).take limit).getLast?,
      Whole b ((beyond items cursor direction).drop limit)) :
    (orderBy FeedItem.rank (fetched items cursor direction limit)).take limit =
      (beyond items cursor direction).take limit := by
  refine take_orderBy (h.filter _).rank (fetched_nodup h) fetched_subset fun x hx => ?_
  have hsorted := beyond_pairwise cursor direction h
  have hxC : x ∈ rowsBeyond items cursor direction :=
    (orderBy_perm _ _).mem_iff.mp (List.mem_of_mem_take hx)
  refine (mem_fetched_or h hxC).resolve_right ?_
  rintro ⟨hlength, hbefore⟩
  obtain ⟨y, hy, hytop⟩ : ∃ y ∈ fetchFeedItems x.type items cursor direction limit,
      y ∉ (beyond items cursor direction).take limit := by
    by_contra hall
    push Not at hall
    have hle := (List.subperm_of_subset (fetchFeedItems_nodup h x.type) hall).length_le
    rw [hlength, List.length_take] at hle
    omega
  obtain ⟨hyC, hytype⟩ := mem_rowsBeyond hy
  have hydrop : y ∈ (beyond items cursor direction).drop limit := by
    have hmem : y ∈ beyond items cursor direction := (orderBy_perm _ _).mem_iff.mpr hyC
    rw [← List.take_append_drop limit (beyond items cursor direction), List.mem_append] at hmem
    exact hmem.resolve_left hytop
  obtain ⟨b, hb⟩ := List.getLast?_isSome.mpr (List.ne_nil_of_mem hx) |> Option.isSome_iff_exists.mp
  have hxb := rank_le_last (hsorted.sublist (List.take_sublist _ _)) hb hx
  have hby : b.rank < y.rank := by
    rw [← List.take_append_drop limit (beyond items cursor direction)] at hsorted
    exact (List.pairwise_append.mp hsorted).2.2 b (List.mem_of_getLast? hb) y hydrop
  have hxy := rank_lt.1 (hxb.trans_lt hby)
  have hyx := rowRank_lt.1 (hbefore y hy)
  have hts : y.timestamp ≤ b.timestamp ∧ b.timestamp ≤ x.timestamp :=
    ⟨timestamp_le hby.le, timestamp_le hxb⟩
  have hytime := hwhole b hb y hydrop
  rw [hytype] at hxy
  unfold FeedItem.timestamp at *
  omega

/-! ### Older pages -/

def Issued (cursor : Option FeedCursor) : Prop := ∀ c ∈ cursor, ∃ b, c = encodeFeedCursor b

lemma issued_some (b : FeedItem) : Issued (some (encodeFeedCursor b)) := by
  rintro _ ⟨⟩
  exact ⟨b, rfl⟩

lemma loadFeed_eq (hcursor : Issued cursor) : loadFeed items cursor direction limit =
    (orderBy FeedItem.rank (fetched items cursor direction limit)).take limit := by
  have hdecode : cursor.bind decodeFeedCursor = cursor := by
    cases cursor with
    | none => rfl
    | some c =>
      obtain ⟨b, rfl⟩ := hcursor c rfl
      exact if_pos b.id_pos
  rw [loadFeed, hdecode]
  rfl

lemma beyond_next (h : Valid items) (hcursor : Issued cursor)
    (hb : b ∈ beyond items cursor .older) : beyond items (some (encodeFeedCursor b)) .older =
      (beyond items cursor .older).filter (cursorCondition (encodeFeedCursor b) .older) := by
  have hnodup : ((rowsBeyond items cursor .older).map FeedItem.rank).Nodup := (h.filter _).rank
  rw [beyond, beyond, ← orderBy_filter hnodup, rowsBeyond, rowsBeyond, List.filter_filter]
  congr 1
  refine List.filter_congr fun i _ => ?_
  rw [Option.all_some, Bool.eq_iff_iff, Bool.and_eq_true, iff_self_and]
  intro hi
  cases hc : cursor with
  | none => rfl
  | some c =>
    obtain ⟨b', rfl⟩ := hcursor c hc
    obtain ⟨-, hbb⟩ := mem_beyond.1 hb
    rw [hc, Option.all_some, cursorCondition_older] at hbb
    rw [cursorCondition_older] at hi
    rw [Option.all_some, cursorCondition_older]
    refine ⟨hbb.1.trans hi.1, fun heq => hi.2 ?_⟩
    exact le_antisymm (timestamp_le hi.1.le) (heq ▸ timestamp_le hbb.1.le)

/-- Behind each item up to which the rows fill whole pages there is none of its millisecond with a
fraction. -/
def Ends (limit : ℕ) (rest : List FeedItem) : Prop :=
  ∀ front b back, rest = front ++ b :: back → limit ∣ front.length + 1 → Whole b back

lemma beyond_last {front back : List FeedItem} (h : Valid items) (hcursor : Issued cursor)
    (hrest : beyond items cursor .older = front ++ b :: back) (hwhole : Whole b back) :
    beyond items (some (encodeFeedCursor b)) .older = back := by
  have hsorted := beyond_pairwise cursor .older h
  rw [beyond_next h hcursor (by rw [hrest]; simp)]
  rw [hrest] at hsorted ⊢
  obtain ⟨-, hback, hfront⟩ := List.pairwise_append.mp hsorted
  have hnone : (front ++ [b]).filter (cursorCondition (encodeFeedCursor b) .older) = [] := by
    rw [List.filter_eq_nil_iff]
    intro i hi
    rw [cursorCondition_older]
    rcases List.mem_append.mp hi with hi | hi
    · exact fun hlt => absurd hlt.1 (hfront i hi b List.mem_cons_self).not_gt
    · exact fun hlt => absurd hlt.1 (by rw [List.mem_singleton.mp hi]; exact lt_irrefl _)
  have hall : back.filter (cursorCondition (encodeFeedCursor b) .older) = back := by
    refine List.filter_eq_self.mpr fun i hi => ?_
    exact cursorCondition_older.2 ⟨(List.pairwise_cons.mp hback).1 i hi, hwhole i hi⟩
  rw [List.append_cons, List.filter_append, hnone, hall, List.nil_append]

lemma Ends.whole {rest : List FeedItem} (h : Ends limit rest)
    (hb : b ∈ (rest.take limit).getLast?) : Whole b (rest.drop limit) := by
  obtain ⟨front, hfront⟩ := List.getLast?_eq_some_iff.mp hb
  rcases Nat.lt_or_ge rest.length limit with hlt | hge
  · rw [List.drop_eq_nil_of_le hlt.le]
    exact fun _ hi => absurd hi List.not_mem_nil
  · refine h front b (rest.drop limit) ?_ ?_
    · rw [List.append_cons, ← hfront, List.take_append_drop]
    · have hlength := congrArg List.length hfront
      rw [List.length_take_of_le hge, List.length_append, List.length_singleton] at hlength
      exact ⟨1, by omega⟩

lemma Ends.drop {rest : List FeedItem} (h : Ends limit rest) : Ends limit (rest.drop limit) := by
  intro front b back hdrop hdvd
  have hlength := congrArg List.length hdrop
  rw [List.length_drop, List.length_append, List.length_cons] at hlength
  refine h (rest.take limit ++ front) b back ?_ ?_
  · rw [List.append_assoc, ← hdrop, List.take_append_drop]
  · rw [List.length_append, List.length_take_of_le (by omega), Nat.add_assoc]
    exact (Nat.dvd_add_right (Nat.dvd_refl limit)).mpr hdvd

lemma perm_of_ends (h : Valid items) (hlimit : 0 < limit) (n : ℕ) (hcursor : Issued cursor)
    (hends : Ends limit (beyond items cursor .older))
    (hn : (beyond items cursor .older).length ≤ n) :
    (loadOlder items limit n cursor).Perm (beyond items cursor .older) := by
  induction n generalizing cursor with
  | zero =>
    rw [List.eq_nil_of_length_eq_zero (Nat.le_zero.mp hn)]
    exact .nil
  | succ n ih =>
    have hpage : loadFeed items cursor .older limit = (beyond items cursor .older).take limit := by
      rw [loadFeed_eq hcursor]
      exact take_fetched h hlimit fun b hb => hends.whole hb
    rw [loadOlder, hpage]
    cases hlast : ((beyond items cursor .older).take limit).getLast? with
    | none =>
      rw [List.getLast?_eq_none_iff, List.take_eq_nil_iff] at hlast
      rw [hlast.resolve_left hlimit.ne']
    | some b =>
      obtain ⟨front, hfront⟩ := List.getLast?_eq_some_iff.mp hlast
      have hrest : beyond items cursor .older =
          front ++ b :: (beyond items cursor .older).drop limit := by
        rw [List.append_cons, ← hfront, List.take_append_drop]
      have hnext := beyond_last h hcursor hrest (hends.whole hlast)
      refine List.Perm.trans (List.Perm.append_left _ (ih (issued_some b) ?_ ?_)) ?_
      · exact hnext ▸ hends.drop
      · rw [hnext, List.length_drop]
        omega
      · rw [hnext, List.take_append_drop]

lemma mem_loadOlder (h : Valid items) {n : ℕ} (hcursor : Issued cursor)
    (hi : i ∈ loadOlder items limit n cursor) : i ∈ beyond items cursor .older := by
  induction n generalizing cursor with
  | zero => exact absurd hi List.not_mem_nil
  | succ n ih =>
    have hpage : loadFeed items cursor .older limit ⊆ beyond items cursor .older := by
      rw [loadFeed_eq hcursor]
      exact fun a ha => (orderBy_perm _ _).mem_iff.mpr (fetched_subset
        ((orderBy_perm _ _).mem_iff.mp (List.mem_of_mem_take ha)))
    rw [loadOlder] at hi
    cases hlast : (loadFeed items cursor .older limit).getLast? with
    | none => simp [hlast] at hi
    | some b =>
      simp only [hlast, List.mem_append] at hi
      refine hi.elim (fun hi => hpage hi) fun hi => ?_
      have hmem := ih (issued_some b) hi
      rw [beyond_next h hcursor (hpage (List.mem_of_getLast? hlast))] at hmem
      exact (List.mem_filter.mp hmem).1

lemma fetched_of_length_lt (h : Valid items)
    (hlength : (fetched items cursor direction limit).length < limit)
    (hi : i ∈ beyond items cursor direction) : i ∈ fetched items cursor direction limit := by
  refine (mem_fetched_or h ((orderBy_perm _ _).mem_iff.mp hi)).resolve_right ?_
  rintro ⟨hfull, -⟩
  have hsub : fetchFeedItems i.type items cursor direction limit ⊆
      fetched items cursor direction limit := by
    intro a ha
    rw [mem_fetched, (mem_rowsBeyond ha).2]
    exact ha
  have hle := (List.subperm_of_subset (fetchFeedItems_nodup h i.type) hsub).length_le
  omega

lemma Ends.append {page rest : List FeedItem} (hb : b ∈ page.getLast?) (hle : page.length ≤ limit)
    (hfull : rest ≠ [] → page.length = limit) (hwhole : Whole b rest) (h : Ends limit rest) :
    Ends limit (page ++ rest) := by
  intro front b' back heq hdvd
  have hlt := Nat.le_of_dvd (Nat.succ_pos _) hdvd
  rcases List.append_eq_append_iff.mp heq with ⟨xs, rfl, hxs⟩ | ⟨xs, hpage, hxs⟩
  · refine h xs b' back hxs ?_
    rwa [List.length_append, hfull (by simp [hxs]), Nat.add_assoc,
      Nat.dvd_add_right (Nat.dvd_refl limit)] at hdvd
  · cases xs with
    | nil =>
      have hrest : rest = [] ++ b' :: back := hxs.symm
      rw [List.append_nil] at hpage
      rw [← hpage, hfull (by simp [hrest])] at hdvd
      exact h [] b' back hrest ((Nat.dvd_add_right (Nat.dvd_refl limit)).mp hdvd)
    | cons x ys =>
      obtain ⟨rfl, rfl⟩ := List.cons.inj hxs
      rw [hpage, List.length_append, List.length_cons] at hle
      obtain rfl : ys = [] := List.eq_nil_of_length_eq_zero (by omega)
      obtain rfl : b' = b := by simpa [hpage] using hb
      exact hwhole

lemma fetched_rank_nodup (h : Valid items) :
    ((fetched items cursor direction limit).map FeedItem.rank).Nodup :=
  List.Nodup.map_on (fun _ ha _ hb heq => List.inj_on_of_nodup_map (h.filter _).rank
    (fetched_subset ha) (fetched_subset hb) heq) (fetched_nodup h)

lemma ends_of_perm (h : Valid items) (n : ℕ) (hcursor : Issued cursor)
    (hperm : (loadOlder items limit n cursor).Perm (beyond items cursor .older)) :
    Ends limit (beyond items cursor .older) := by
  induction n generalizing cursor with
  | zero =>
    rw [List.nil_perm.mp hperm]
    exact fun front b back heq => absurd heq.symm (by simp)
  | succ n ih =>
    rw [loadOlder] at hperm
    cases hlast : (loadFeed items cursor .older limit).getLast? with
    | none =>
      simp only [hlast] at hperm
      rw [List.nil_perm.mp hperm]
      exact fun front b back heq => absurd heq.symm (by simp)
    | some b =>
      simp only [hlast] at hperm
      set page := loadFeed items cursor .older limit
      set rest := loadOlder items limit n (some (encodeFeedCursor b))
      have hpage : page = (orderBy FeedItem.rank (fetched items cursor .older limit)).take limit :=
        loadFeed_eq hcursor
      have hbehind : ∀ i ∈ rest, b.rank < i.rank ∧
          (i.timestamp = b.timestamp → i.time = 1000 * i.timestamp) := by
        intro i hi
        have hmem := (mem_beyond.1 (mem_loadOlder h (issued_some b) hi)).2
        rwa [Option.all_some, cursorCondition_older] at hmem
      have hsorted : page.Pairwise fun a b => a.rank < b.rank := by
        rw [hpage]
        exact (orderBy_pairwise (fetched_rank_nodup h)).sublist (List.take_sublist _ _)
      have hnodup : (rest.map FeedItem.rank).Nodup := by
        have hall := ((hperm.trans (orderBy_perm _ _)).map FeedItem.rank).nodup_iff.mpr
          (h.filter _).rank
        exact hall.sublist ((List.sublist_append_right page rest).map _)
      have hmem {i : FeedItem} : i ∈ orderBy FeedItem.rank rest ↔ i ∈ rest :=
        (orderBy_perm _ _).mem_iff
      have hrest : beyond items cursor .older = page ++ orderBy FeedItem.rank rest := by
        refine orderBy_eq ((List.Perm.append_left page (orderBy_perm _ _)).trans
          (hperm.trans (orderBy_perm _ _))) ?_
        refine List.pairwise_append.mpr ⟨hsorted, orderBy_pairwise hnodup, fun a ha i hi => ?_⟩
        exact (rank_le_last hsorted hlast ha).trans_lt (hbehind i (hmem.1 hi)).1
      have hwhole : Whole b (orderBy FeedItem.rank rest) :=
        fun i hi => (hbehind i (hmem.1 hi)).2
      obtain ⟨front, hfront⟩ := List.getLast?_eq_some_iff.mp hlast
      have hsplit : beyond items cursor .older = front ++ b :: orderBy FeedItem.rank rest := by
        rw [hrest, hfront, List.append_assoc, List.singleton_append]
      have hnext := beyond_last h hcursor hsplit hwhole
      have hends := ih (issued_some b) (hnext ▸ (orderBy_perm _ _).symm)
      rw [hnext] at hends
      rw [hrest]
      refine .append hlast (by rw [hpage]; exact List.length_take_le _ _) (fun hne => ?_) hwhole
        hends
      -- what is left would have been on a page that is not full
      obtain ⟨i, hi⟩ := List.exists_mem_of_ne_nil _ hne
      rw [hpage, List.length_take, (orderBy_perm _ _).length_eq]
      by_contra hne
      have hlt : (fetched items cursor .older limit).length < limit := by omega
      have hifetched := fetched_of_length_lt h hlt (hrest ▸ List.mem_append_right page hi)
      have hipage : i ∈ page := by
        rw [hpage, List.take_of_length_le (by rw [(orderBy_perm _ _).length_eq]; omega)]
        exact (orderBy_perm _ _).mem_iff.mpr hifetched
      exact absurd (hbehind i (hmem.1 hi)).1 (rank_le_last hsorted hlast hipage).not_gt

/-- Where the items up to one fill whole pages, those behind it that are of its millisecond are of
a whole one. -/
def EndsWhole (items : List FeedItem) (limit : ℕ) : Prop :=
  ∀ b ∈ items, limit ∣ (items.filter fun i => i.rank < b.rank).length + 1 →
    Whole b (items.filter fun i => b.rank < i.rank)

lemma endsWhole_iff (h : Valid items) :
    EndsWhole items limit ↔ Ends limit (orderBy FeedItem.rank items) := by
  have hsplit {b : FeedItem} {front back : List FeedItem} (hsorted : orderBy FeedItem.rank items =
      front ++ b :: back) : (items.filter fun i => i.rank < b.rank).Perm front ∧
        (items.filter fun i => b.rank < i.rank).Perm back := by
    have hperm := orderBy_perm FeedItem.rank items
    have hpairwise := orderBy_pairwise h.rank
    rw [hsorted] at hperm hpairwise
    have hbefore := hperm.symm.filter fun i => decide (i.rank < b.rank)
    have hafter := hperm.symm.filter fun i => decide (b.rank < i.rank)
    rw [filter_before hpairwise (by simp)] at hbefore
    rw [filter_after hpairwise (by simp)] at hafter
    exact ⟨hbefore, hafter⟩
  constructor
  · intro hitems front b back hsorted hdvd
    have hb : b ∈ items := (orderBy_perm FeedItem.rank items).mem_iff.mp (by simp [hsorted])
    exact fun i hi => hitems b hb ((hsplit hsorted).1.length_eq ▸ hdvd) i
      ((hsplit hsorted).2.mem_iff.mpr hi)
  · intro hsorted b hb hdvd
    obtain ⟨front, back, hrest⟩ := List.append_of_mem
      ((orderBy_perm FeedItem.rank items).mem_iff.mpr hb)
    exact fun i hi => hsorted front b back hrest ((hsplit hrest).1.length_eq ▸ hdvd) i
      ((hsplit hrest).2.mem_iff.mp hi)

/-! ### Polling -/

/-- A page that is polled, with what has been added to the items and delivered since. -/
structure PollState where
  items : List FeedItem
  /-- The newest item of the last nonempty answer. -/
  last : Option FeedItem
  added : List FeedItem := []
  delivered : List FeedItem := []

def PollState.newerCursor (s : PollState) : Option FeedCursor := s.last.map encodeFeedCursor

/-- Some items are added, and the page asks for what is newer than the last item it has seen. -/
def PollState.poll (s : PollState) (limit : ℕ) (batch : List FeedItem) : PollState :=
  let answer := loadFeed (s.items ++ batch) s.newerCursor .newer limit
  { items := s.items ++ batch
    last := answer.head?.or s.last
    added := s.added ++ batch
    delivered := s.delivered ++ answer }

def Newer (b i : FeedItem) : Prop :=
  b.time < i.time ∨ b.time = i.time ∧
    (i.type.priority < b.type.priority ∨ i.type = b.type ∧ b.id < i.id)

/-- The cursor leaves no more items than an answer has, and none that was added before. -/
structure Fits (s : PollState) (limit : ℕ) (batch : List FeedItem) : Prop where
  length_le : (rowsBeyond (s.items ++ batch) s.newerCursor .newer).length ≤ limit
  added : ∀ i ∈ s.added, i ∉ rowsBeyond (s.items ++ batch) s.newerCursor .newer

inductive Polled (limit : ℕ) : PollState → Prop
  | load {items : List FeedItem} (h : Valid items) :
    Polled limit { items, last := (loadFeed items none .older limit).head? }
  | poll {s : PollState} (h : Polled limit s) {batch : List FeedItem}
    (hvalid : Valid (s.items ++ batch)) (hnewer : ∀ b ∈ s.last, ∀ i ∈ batch, Newer b i)
    (hfits : Fits s limit batch) : Polled limit (s.poll limit batch)

lemma cursorCondition_newer (h : Newer b i) :
    cursorCondition (encodeFeedCursor b) .newer i = true := by
  simp only [cursorCondition, Bool.or_eq_true, Bool.and_eq_true, decide_eq_true_eq]
  simp only [encodeFeedCursor, priority_inj, FeedItem.timestamp]
  rcases h with h | ⟨h, h'⟩
  · exact .inl (by omega)
  · rcases (show 1000 * (b.time / 1000) ≤ i.time by omega).lt_or_eq with hlt | heq
    · exact .inl hlt
    · exact .inr ⟨heq.symm, h'⟩

lemma issued_newerCursor (s : PollState) : Issued s.newerCursor := by
  intro c hc
  obtain ⟨b, -, rfl⟩ := Option.map_eq_some_iff.mp hc
  exact ⟨b, rfl⟩

lemma loadFeed_perm (h : Valid items) (hcursor : Issued cursor)
    (hle : (rowsBeyond items cursor direction).length ≤ limit) :
    (loadFeed items cursor direction limit).Perm (rowsBeyond items cursor direction) := by
  have hfetched : (fetched items cursor direction limit).Perm
      (rowsBeyond items cursor direction) := by
    refine (List.perm_ext_iff_of_nodup (fetched_nodup h)
      (List.Nodup.of_map _ (h.filter _).rank)).mpr
        fun i => ⟨fun hi => fetched_subset hi, fun hi => ?_⟩
    refine (mem_fetched_or h hi).resolve_right ?_
    rintro ⟨hfull, -⟩
    have hsub : fetchFeedItems i.type items cursor direction limit ⊆
        rowsBeyond items cursor direction := fun a ha => (mem_rowsBeyond ha).1
    have hlength := (List.subperm_of_subset (fetchFeedItems_nodup h i.type) hsub).length_le
    have hpos : 0 < (rowsBeyond items cursor direction).length := List.length_pos_of_mem hi
    omega
  rw [loadFeed_eq hcursor, List.take_of_length_le]
  · exact (orderBy_perm _ _).trans hfetched
  · rw [(orderBy_perm _ _).length_eq, hfetched.length_eq]
    exact hle

lemma Polled.delivered {s : PollState} (h : Polled limit s) :
    s.delivered ⊆ s.items ∧ ∀ i ∈ s.added, s.delivered.count i = 1 := by
  induction h with
  | load h => exact ⟨List.nil_subset _, fun _ hi => absurd hi List.not_mem_nil⟩
  | @poll s h batch hvalid hnewer hfits ih =>
    have hanswer := loadFeed_perm hvalid (issued_newerCursor s) hfits.length_le
    have hnodup : (rowsBeyond (s.items ++ batch) s.newerCursor .newer).Nodup :=
      List.Nodup.of_map _ (hvalid.filter _).rank
    refine ⟨fun i hi => ?_, fun i hi => ?_⟩
    · rcases List.mem_append.mp hi with hi | hi
      · exact List.mem_append_left _ (ih.1 hi)
      · exact List.mem_of_mem_filter (hanswer.mem_iff.mp hi)
    · rw [PollState.poll, List.count_append, hanswer.count_eq]
      rcases List.mem_append.mp hi with hi | hi
      · rw [ih.2 i hi, List.count_eq_zero_of_not_mem (hfits.added i hi)]
      · have hfresh : i ∉ s.delivered := fun hmem =>
          (List.nodup_append.mp (List.Nodup.of_map _ hvalid)).2.2 i (ih.1 hmem) i hi rfl
        rw [List.count_eq_zero_of_not_mem hfresh, List.count_eq_one_of_mem hnodup]
        refine List.mem_filter.mpr ⟨List.mem_append_right _ hi, ?_⟩
        cases hlast : s.last with
        | none => simp [PollState.newerCursor, hlast]
        | some b =>
          simpa [PollState.newerCursor, hlast] using cursorCondition_newer (hnewer b hlast i hi)

/-- The older pages have every item once exactly when none of them ends within a millisecond that
goes on with a fraction, and polls that fit deliver every item added once. -/
theorem feed_paging (hlimit : 0 < limit) :
    (∀ items, Valid items → ((∀ n ≥ items.length, (loadOlder items limit n none).Perm items) ↔
      EndsWhole items limit)) ∧
    ∀ s, Polled limit s → ∀ i ∈ s.added, s.delivered.count i = 1 := by
  refine ⟨fun items h => ?_, fun s hs => hs.delivered.2⟩
  have hall : beyond items none .older = orderBy FeedItem.rank items := by
    have hrows : rowsBeyond items none .older = items := List.filter_eq_self.mpr fun _ _ => rfl
    rw [beyond, hrows]
  have hperm : (beyond items none .older).Perm items := hall ▸ orderBy_perm _ _
  have hissued : Issued none := fun _ hc => absurd hc (by simp)
  rw [endsWhole_iff h, ← hall]
  constructor
  · exact fun hpages => ends_of_perm h _ hissued ((hpages _ le_rfl).trans hperm.symm)
  · exact fun hends n hn => (perm_of_ends h hlimit n hissued hends
      (hperm.length_eq ▸ hn)).trans hperm

/-- A feed of one best, recorded at a whole millisecond, to which a later one is added. -/
def firstBest : FeedItem := ⟨.personalBest, 1, Nat.one_pos, 1000⟩
def nextBest : FeedItem := ⟨.personalBest, 2, Nat.two_pos, 2500⟩
def loaded : PollState :=
  { items := [firstBest], last := (loadFeed [firstBest] none .older 1).head? }

theorem feed_paging_loaded :
    ((∀ n ≥ [firstBest].length, (loadOlder [firstBest] 1 n none).Perm [firstBest]) ↔
      EndsWhole [firstBest] 1) ∧
    ∀ i ∈ (loaded.poll 1 [nextBest]).added, (loaded.poll 1 [nextBest]).delivered.count i = 1 := by
  refine ⟨(feed_paging Nat.one_pos).1 _ (by unfold Valid; decide),
    (feed_paging Nat.one_pos).2 _ (.poll (.load (by unfold Valid; decide)) ?_ ?_ ?_)⟩
  · unfold Valid; decide
  · unfold Newer; decide
  · exact ⟨by decide, by decide⟩

/-- Two personal bests that one transaction recorded, 500 µs past a millisecond. -/
def bests : List FeedItem :=
  [⟨.personalBest, 1, Nat.one_pos, 1500⟩, ⟨.personalBest, 2, Nat.two_pos, 1500⟩]

/-- On pages of one, the second of two bests of one transaction is never seen. -/
theorem best_lost : ¬∀ limit, 0 < limit → ∀ items, Valid items →
    ∀ n ≥ items.length, (loadOlder items limit n none).Perm items := by
  intro h
  have hperm := h 1 Nat.one_pos bests (by unfold Valid; decide) 2 le_rfl
  revert hperm
  decide

end Blert.Feed
