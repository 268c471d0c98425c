import Mathlib.Data.String.Basic
import Blert.Manager.Store

/-!
The identity of a party.

A party is identified by the normalized names of its members, joined by a character that
normalization leaves in none of them. One side sorts the names before it normalizes them, by the
code units of their spelling, and the other side after. The two agree where normalization keeps the
order of the names.
-/

namespace Blert.Names

open Processing

/-! ### Sorting strings -/

def codeUnits (c : Char) : List ℕ :=
  if c.toNat < 0x10000 then [c.toNat]
  else [0xD800 + (c.toNat - 0x10000) / 0x400, 0xDC00 + (c.toNat - 0x10000) % 0x400]

def units (s : String) : List ℕ := s.toList.flatMap codeUnits

/-- The order by code units, in which an array of strings is sorted. -/
def UnitsLe (s t : String) : Prop := units s ≤ units t

instance : DecidableRel UnitsLe := fun s t => inferInstanceAs (Decidable (units s ≤ units t))

instance : Std.Total UnitsLe := ⟨fun s t => le_total (units s) (units t)⟩

instance : IsTrans String UnitsLe := ⟨fun _ _ _ => le_trans⟩

def toSorted (names : List String) : List String := names.insertionSort UnitsLe

lemma codeUnits_append {c d : Char} {l m : List ℕ} (h : codeUnits c ++ l = codeUnits d ++ m) :
    c = d ∧ l = m := by
  have hvalid : ∀ e : Char, e.toNat < 0xD800 ∨ 0xDFFF < e.toNat ∧ e.toNat < 0x110000 :=
    fun e => e.valid
  have hc := hvalid c
  have hd := hvalid d
  suffices c.toNat = d.toNat ∧ l = m from ⟨Char.toNat_inj.mp this.1, this.2⟩
  unfold codeUnits at h
  split_ifs at h
  · simpa using h
  · simp only [List.cons_append, List.nil_append, List.cons.injEq] at h
    omega
  · simp only [List.cons_append, List.nil_append, List.cons.injEq] at h
    omega
  · simp only [List.cons_append, List.nil_append, List.cons.injEq] at h
    exact ⟨by omega, h.2.2⟩

lemma codeUnits_ne_nil (c : Char) : codeUnits c ≠ [] := by
  unfold codeUnits
  split_ifs <;> exact List.cons_ne_nil _ _

lemma units_injective : Function.Injective units := by
  have hflat : ∀ cs ds : List Char, cs.flatMap codeUnits = ds.flatMap codeUnits → cs = ds := by
    intro cs
    induction cs with
    | nil =>
      intro ds h
      cases ds with
      | nil => rfl
      | cons d ds =>
        rw [List.flatMap_nil, List.flatMap_cons] at h
        exact absurd (List.append_eq_nil_iff.mp h.symm).1 (codeUnits_ne_nil d)
    | cons c cs ih =>
      intro ds h
      cases ds with
      | nil =>
        rw [List.flatMap_nil, List.flatMap_cons] at h
        exact absurd (List.append_eq_nil_iff.mp h).1 (codeUnits_ne_nil c)
      | cons d ds =>
        rw [List.flatMap_cons, List.flatMap_cons] at h
        obtain ⟨rfl, hrest⟩ := codeUnits_append h
        rw [ih ds hrest]
  exact fun s t h => String.toList_inj.mp (hflat _ _ h)

/-! ### Joining names -/

lemma join_injective {xs ys : List String} (hx : ∀ n ∈ xs, n ≠ "" ∧ '-' ∉ n.toList)
    (hy : ∀ n ∈ ys, n ≠ "" ∧ '-' ∉ n.toList)
    (h : "-".intercalate xs = "-".intercalate ys) : xs = ys := by
  have hjoin : ['-'].intercalate (xs.map String.toList) =
      ['-'].intercalate (ys.map String.toList) := by
    have := congrArg String.toList h
    rwa [String.toList_intercalate, String.toList_intercalate] at this
  -- A list of names can be split off the string again, unless it is empty.
  have hsplit : ∀ {zs : List String}, (∀ n ∈ zs, n ≠ "" ∧ '-' ∉ n.toList) → zs ≠ [] →
      (['-'].intercalate (zs.map String.toList)).splitOn '-' = zs.map String.toList := by
    intro zs hz hne
    refine List.splitOn_intercalate '-' (fun l hl => ?_) (by simpa using hne)
    obtain ⟨n, hn, rfl⟩ := List.mem_map.mp hl
    exact (hz n hn).2
  have hempty : ∀ {zs : List String}, (∀ n ∈ zs, n ≠ "" ∧ '-' ∉ n.toList) →
      ['-'].intercalate (zs.map String.toList) = [] → zs = [] := by
    intro zs hz hnil
    by_contra hne
    have hzs := hsplit hz hne
    rw [hnil] at hzs
    cases zs with
    | nil => exact hne rfl
    | cons n zs =>
      rw [List.splitOn_nil, List.map_cons, List.cons.injEq] at hzs
      exact (hz n List.mem_cons_self).1 (String.toList_eq_nil_iff.mp hzs.1.symm)
  by_cases hxs : xs = []
  · subst hxs
    exact (hempty hy hjoin.symm).symm
  by_cases hys : ys = []
  · subst hys
    exact hempty hx hjoin
  have hmap : xs.map String.toList = ys.map String.toList := by
    rw [← hsplit hx hxs, hjoin, hsplit hy hys]
  exact List.map_injective_iff.mpr (fun _ _ => String.toList_inj.mp) hmap

/-! ### Keys and hashes -/

def KeepsNames (naming : Naming) : Prop := ∀ name, name ≠ "" → naming.toLowercase name ≠ ""

variable (naming : Naming)

def challengePartyKey (type : ℕ) (partyMembers : List String) : String :=
  let party := "-".intercalate ((toSorted partyMembers).map naming.normalizeRsn)
  toString type ++ "-" ++ party

def partyHash (party : List String) : String :=
  naming.digest ("-".intercalate ((toSorted party).map naming.normalizeRsn))

/-- Unique identity for a party running a particular challenge type. -/
def partyIdentifier (challengeType : ℕ) (party : List String) : String :=
  let names := (party.map naming.normalizeRsn).insertionSort (· ≤ ·)
  toString challengeType ++ "-" ++ "-".intercalate names

/-- Two lists name the same players after normalization. -/
def SamePlayers (a b : List String) : Prop :=
  (a.map naming.normalizeRsn).Perm (b.map naming.normalizeRsn)

/-- Two lists have one identity if and only if they name the same players, and either side gives
them the same one. -/
structure OneIdentity (type : ℕ) (a b : List String) : Prop where
  key : challengePartyKey naming type a = challengePartyKey naming type b ↔
    SamePlayers naming a b
  hash : partyHash naming a = partyHash naming b ↔ SamePlayers naming a b
  identifier : ∀ party ∈ [a, b],
    partyIdentifier naming type party = challengePartyKey naming type party

def KeepsOrder (party : List String) : Prop :=
  ∀ x ∈ party, ∀ y ∈ party, UnitsLe x y → naming.normalizeRsn x ≤ naming.normalizeRsn y

instance (party : List String) : Decidable (KeepsOrder naming party) :=
  inferInstanceAs (Decidable (∀ x ∈ party, ∀ y ∈ party, _ → _))

variable {naming} {type : ℕ} {a b party : List String}

lemma normalizeRsn_ne (hlower : KeepsNames naming) {name : String} (h : name ≠ "") :
    naming.normalizeRsn name ≠ "" ∧ '-' ∉ (naming.normalizeRsn name).toList := by
  have hlow := hlower name h
  unfold Naming.normalizeRsn
  refine ⟨fun hnil => hlow ?_, fun hmem => ?_⟩
  · have := congrArg String.toList hnil
    rw [String.toList_map] at this
    exact String.toList_eq_nil_iff.mp (List.map_eq_nil_iff.mp this)
  · rw [String.toList_map] at hmem
    obtain ⟨c, -, hc⟩ := List.mem_map.mp hmem
    split_ifs at hc with hsep
    · exact absurd hc (by decide)
    · exact hsep (.inl hc)

lemma keepsOrder_iff : KeepsOrder naming party ↔
    (toSorted party).map naming.normalizeRsn =
      (party.map naming.normalizeRsn).insertionSort (· ≤ ·) := by
  have hperm : ((toSorted party).map naming.normalizeRsn).Perm
      ((party.map naming.normalizeRsn).insertionSort (· ≤ ·)) :=
    ((List.perm_insertionSort _ _).map _).trans (List.perm_insertionSort _ _).symm
  have hsorted := List.pairwise_insertionSort UnitsLe party
  constructor
  · intro h
    refine List.Perm.eq_of_pairwise' (List.pairwise_map.mpr ?_)
      (List.pairwise_insertionSort (· ≤ ·) _) hperm
    refine hsorted.imp_of_mem fun hx hy hxy => ?_
    exact h _ ((List.mem_insertionSort _).mp hx) _
      ((List.mem_insertionSort _).mp hy) hxy
  · intro h x hx y hy hxy
    have hmap := List.pairwise_insertionSort (· ≤ ·) (party.map naming.normalizeRsn)
    rw [← h] at hmap
    have hle := List.pairwise_map.mp hmap
    -- One of the two comes first in the sorted list, and is no greater either way.
    let Ordered (a b : String) : Prop :=
      UnitsLe a b ∧ naming.normalizeRsn a ≤ naming.normalizeRsn b ∨
        UnitsLe b a ∧ naming.normalizeRsn b ≤ naming.normalizeRsn a
    have : Std.Symm Ordered := ⟨fun _ _ h => h.symm⟩
    have hone : (toSorted party).Pairwise Ordered := (hsorted.and hle).imp fun h => .inl h
    by_cases heq : x = y
    · exact heq ▸ String.le_refl _
    · rcases hone.forall ((List.mem_insertionSort _).mpr hx)
        ((List.mem_insertionSort _).mpr hy) heq with h1 | h1
      · exact h1.2
      · exact absurd (units_injective (le_antisymm hxy h1.1)) heq

/-! ### One identity -/

lemma joined_names (hlower : KeepsNames naming) (hparty : ∀ n ∈ party, n ≠ "")
    {names : List String} (h : names.Perm (party.map naming.normalizeRsn)) :
    ∀ n ∈ names, n ≠ "" ∧ '-' ∉ n.toList := by
  intro n hn
  obtain ⟨m, hm, rfl⟩ := List.mem_map.mp (h.mem_iff.mp hn)
  exact normalizeRsn_ne hlower (hparty m hm)

lemma toSorted_perm : ((toSorted party).map naming.normalizeRsn).Perm
    (party.map naming.normalizeRsn) :=
  (List.perm_insertionSort _ _).map _

lemma challengePartyKey_inj (hlower : KeepsNames naming) (ha : ∀ n ∈ a, n ≠ "")
    (hb : ∀ n ∈ b, n ≠ "") :
    challengePartyKey naming type a = challengePartyKey naming type b ↔
      (toSorted a).map naming.normalizeRsn = (toSorted b).map naming.normalizeRsn := by
  refine ⟨fun h => ?_, fun h => by rw [challengePartyKey, challengePartyKey, h]⟩
  exact join_injective (joined_names hlower ha toSorted_perm) (joined_names hlower hb toSorted_perm)
    (String.append_right_inj _ |>.mp h)

lemma partyHash_inj (hlower : KeepsNames naming) (hdigest : Function.Injective naming.digest)
    (ha : ∀ n ∈ a, n ≠ "") (hb : ∀ n ∈ b, n ≠ "") :
    partyHash naming a = partyHash naming b ↔
      (toSorted a).map naming.normalizeRsn = (toSorted b).map naming.normalizeRsn := by
  refine ⟨fun h => ?_, fun h => by rw [partyHash, partyHash, h]⟩
  exact join_injective (joined_names hlower ha toSorted_perm) (joined_names hlower hb toSorted_perm)
    (hdigest h)

lemma partyIdentifier_eq_iff (hlower : KeepsNames naming) (hparty : ∀ n ∈ party, n ≠ "") :
    partyIdentifier naming type party = challengePartyKey naming type party ↔
      KeepsOrder naming party := by
  rw [keepsOrder_iff]
  refine ⟨fun h => ?_, fun h => by rw [partyIdentifier, challengePartyKey, h]⟩
  exact (join_injective (joined_names hlower hparty (List.perm_insertionSort _ _))
    (joined_names hlower hparty toSorted_perm) (String.append_right_inj _ |>.mp h)).symm

lemma samePlayers_iff (ha : KeepsOrder naming a) (hb : KeepsOrder naming b) :
    (toSorted a).map naming.normalizeRsn = (toSorted b).map naming.normalizeRsn ↔
      SamePlayers naming a b := by
  rw [keepsOrder_iff.1 ha, keepsOrder_iff.1 hb]
  constructor
  · intro h
    have hperm := List.perm_insertionSort (· ≤ ·) (a.map naming.normalizeRsn)
    rw [h] at hperm
    exact hperm.symm.trans (List.perm_insertionSort _ _)
  · intro h
    refine List.Perm.eq_of_pairwise' (List.pairwise_insertionSort (· ≤ ·) _)
      (List.pairwise_insertionSort (· ≤ ·) _) ?_
    exact (List.perm_insertionSort _ _).trans (h.trans (List.perm_insertionSort _ _).symm)

/-- **A party has one identity** just when normalization keeps the order of the names in each of its
lists. -/
theorem oneIdentity_iff (hlower : KeepsNames naming) (hdigest : Function.Injective naming.digest)
    (ha : ∀ n ∈ a, n ≠ "") (hb : ∀ n ∈ b, n ≠ "") :
    OneIdentity naming type a b ↔ KeepsOrder naming a ∧ KeepsOrder naming b := by
  constructor
  · intro h
    exact ⟨(partyIdentifier_eq_iff hlower ha).mp (h.identifier a (by simp)),
      (partyIdentifier_eq_iff hlower hb).mp (h.identifier b (by simp))⟩
  · rintro ⟨hka, hkb⟩
    refine ⟨(challengePartyKey_inj hlower ha hb).trans (samePlayers_iff hka hkb),
      (partyHash_inj hlower hdigest ha hb).trans (samePlayers_iff hka hkb), ?_⟩
    intro party hparty
    rcases List.mem_pair.mp hparty with rfl | rfl
    · exact (partyIdentifier_eq_iff hlower ha).mpr hka
    · exact (partyIdentifier_eq_iff hlower hb).mpr hkb

def letterNaming : Naming where
  toLowercase name := name.map Char.toLower
  digest := id

lemma keepsNames_letterNaming : KeepsNames letterNaming := by
  intro name hname hnil
  have := congrArg String.toList hnil
  change (name.map Char.toLower).toList = [] at this
  rw [String.toList_map] at this
  exact hname (String.toList_eq_nil_iff.mp (List.map_eq_nil_iff.mp this))

/-- A party of two, in two spellings. -/
theorem spellings_oneIdentity :
    OneIdentity letterNaming 1 ["Caps lock13", "1Ogp"] ["1ogp", "caps-lock13"] :=
  (oneIdentity_iff keepsNames_letterNaming Function.injective_id (by decide) (by decide)).mpr
    (by decide +kernel)

/-- Upper case comes first as it is spelled, and not as it is normalized. -/
theorem capitals_not_oneIdentity :
    ¬OneIdentity letterNaming 1 ["AB", "Aa"] ["ab", "aa"] := by
  intro h
  have hcapitals : ["AB", "Aa"].map letterNaming.normalizeRsn = ["ab", "aa"] := by decide +kernel
  have hletters : ["ab", "aa"].map letterNaming.normalizeRsn = ["ab", "aa"] := by decide +kernel
  have hkey := (challengePartyKey_inj keepsNames_letterNaming (by decide) (by decide)).mp
    (h.key.mpr (List.Perm.of_eq (hcapitals.trans hletters.symm)))
  exact absurd hkey (by decide +kernel)

end Blert.Names
