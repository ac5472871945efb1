import Mathlib.Data.Finmap

-- Hash maps of the source languages. Their iteration order is unspecified, which is why equality of
-- maps is equality of their lookups.
abbrev HashMap (κ ν : Type*) := Finmap (fun _ : κ => ν)

namespace HashMap

variable [DecidableEq κ] {m : HashMap κ ν} {k k' : κ} {v : ν}

theorem lookup_insert :
    (Finmap.insert k v m).lookup k' = if k' = k then some v else m.lookup k' := by
  split
  case isTrue h  => subst h; exact Finmap.lookup_insert _
  case isFalse h => exact Finmap.lookup_insert_of_ne _ h

theorem lookup_erase : (m.erase k).lookup k' = if k' = k then none else m.lookup k' := by
  split
  case isTrue h  => subst h; exact Finmap.lookup_erase _ _
  case isFalse h => exact Finmap.lookup_erase_ne h

theorem insert_eq_self_iff : Finmap.insert k v m = m ↔ m.lookup k = some v := by
  constructor
  case mp =>
    intro h
    rw [← h, lookup_insert, if_pos rfl]
  case mpr =>
    intro h
    refine Finmap.ext_lookup fun k' => ?_
    rw [lookup_insert]
    split
    case isTrue he => rw [he, h]
    case isFalse   => rfl

theorem ne_of_lookup_of_not_mem (h : m.lookup k = some v) (hn : k' ∉ m) : k ≠ k' := by
  rintro rfl
  exact hn <| Finmap.mem_iff.mpr ⟨_, h⟩

theorem any_iff {f : κ → ν → Bool} : m.any f ↔ ∃ k v, m.lookup k = some v ∧ f k v := by
  induction m using Finmap.induction_on
  case H s =>
    have hl (l : List (Sigma fun _ : κ => ν)) (b : Bool) :
        l.foldl (fun d s => d || f s.1 s.2) b = (b || l.any fun s => f s.1 s.2) := by
      induction l generalizing b
      case nil => simp
      case cons e l hi => rw [List.foldl_cons, hi, List.any_cons, Bool.or_assoc]
    have ha : Finmap.any f s.toFinmap = s.entries.any fun s => f s.1 s.2 := hl s.entries false
    rw [ha, List.any_eq_true]
    constructor
    case mp =>
      intro ⟨⟨k, v⟩, hm, hf⟩
      exact ⟨k, v, AList.mem_lookup_iff.mpr hm, hf⟩
    case mpr =>
      intro ⟨k, v, hm, hf⟩
      exact ⟨⟨k, v⟩, AList.mem_lookup_iff.mp hm, hf⟩

-- Changes the value of a key that is present.
def modify (k : κ) (f : ν → ν) (m : HashMap κ ν) : HashMap κ ν :=
  (m.lookup k).elim m fun v => m.insert k (f v)

theorem lookup_modify {f : ν → ν} :
    (modify k f m).lookup k' = if k' = k then (m.lookup k).map f else m.lookup k' := by
  unfold modify
  cases h : m.lookup k
  case none =>
    split
    case isTrue he => rw [he, Option.elim_none, h, Option.map_none]
    case isFalse   => rfl
  case some v => exact lookup_insert

theorem mem_modify {f : ν → ν} : k' ∈ modify k f m ↔ k' ∈ m := by
  rw [Finmap.mem_iff, Finmap.mem_iff, lookup_modify]
  split
  case isTrue h =>
    subst h
    cases m.lookup k' <;> simp
  case isFalse => rfl

-- A map that agrees with another one on the keys of the other one and is not larger is that map.
theorem eq_of_lookup_eq {m m' : HashMap κ ν} (h : ∀ k ∈ m.keys, m'.lookup k = m.lookup k)
    (hc : m'.keys.card = m.keys.card) : m' = m := by
  have hs : m.keys ⊆ m'.keys := by
    intro k hk
    have ⟨v, hv⟩ := Finmap.mem_iff.mp <| Finmap.mem_keys.mp hk
    exact Finmap.mem_keys.mpr <| Finmap.mem_iff.mpr ⟨v, (h k hk).trans hv⟩
  have he : m.keys = m'.keys := Finset.eq_of_subset_of_card_le hs hc.le
  apply Finmap.ext_lookup
  intro k
  by_cases hk : k ∈ m.keys
  case pos => exact h k hk
  case neg =>
    have hn : k ∉ m := hk ∘ Finmap.mem_keys.mpr
    have hn' : k ∉ m' := hk ∘ (he ▸ Finmap.mem_keys.mpr)
    rw [Finmap.lookup_eq_none.mpr hn, Finmap.lookup_eq_none.mpr hn']

-- A map that finds the elements of a list by a key of their own.
structure Indexes (key : α → κ) (l : List α) (m : HashMap κ α) : Prop where
  nodup  : (l.map key).Nodup
  lookup : ∀ k, m.lookup k = l.find? (key · = k)

namespace Indexes

variable {key : α → κ} {l : List α} {m : HashMap κ α} {a : α}

theorem nil : Indexes key [] ∅ where
  nodup    := List.nodup_nil
  lookup _ := rfl

theorem find?_of_mem (hn : (l.map key).Nodup) (h : a ∈ l) : l.find? (key · = key a) = some a := by
  induction l
  case nil => cases h
  case cons b l hi =>
    rw [List.map_cons, List.nodup_cons] at hn
    cases h
    case head   => simp
    case tail h =>
      have hb : key b ≠ key a := fun hb => hn.left <| hb ▸ List.mem_map_of_mem h
      rw [List.find?_cons_of_neg (by simpa using hb), hi hn.right h]

theorem lookup_of_mem (i : Indexes key l m) (h : a ∈ l) : m.lookup (key a) = some a :=
  (i.lookup _).trans <| find?_of_mem i.nodup h

theorem mem_of_lookup (i : Indexes key l m) (h : m.lookup k = some a) : a ∈ l ∧ key a = k := by
  rw [i.lookup] at h
  exact ⟨List.mem_of_find?_eq_some h, by simpa using List.find?_some h⟩

theorem key_not_mem (i : Indexes key l m) (h : k ∉ m) : k ∉ l.map key := by
  intro hm
  obtain ⟨a, ha, rfl⟩ := List.mem_map.mp hm
  exact h <| Finmap.mem_iff.mpr ⟨a, i.lookup_of_mem ha⟩

theorem append (i : Indexes key l m) (h : key a ∉ m) :
    Indexes key (l ++ [a]) (m.insert (key a) a) where
  nodup := by
    rw [List.map_append]
    exact i.nodup.append (List.nodup_singleton _) (by simpa using i.key_not_mem h)
  lookup k := by
    rw [lookup_insert, List.find?_append, ← i.lookup]
    by_cases hk : k = key a
    case pos => subst hk; simp [Finmap.lookup_eq_none.mpr h]
    case neg => simp [hk, Ne.symm hk]

-- The elements with a key are changed in the list as they are in the map.
theorem modify {f : α → α} (i : Indexes key l m) (hf : ∀ a, key (f a) = key a) :
    Indexes key (l.map fun a => if key a = k then f a else a) (HashMap.modify k f m) := by
  have hk : (key ∘ fun a => if key a = k then f a else a) = key := by
    funext a
    by_cases ha : key a = k <;> simp [ha, hf]
  constructor
  case nodup => rw [List.map_map, hk]; exact i.nodup
  case lookup =>
    intro k'
    have hk' : ((fun a => decide (key a = k')) ∘ fun a => if key a = k then f a else a) =
        fun a => decide (key a = k') := by
      funext a
      exact congrArg (fun k => decide (k = k')) (congrFun hk a)
    rw [lookup_modify, i.lookup, i.lookup, List.find?_map, hk']
    split
    case isTrue h =>
      subst h
      cases hl : l.find? (key · = k')
      case none   => rfl
      case some a => simp [show key a = k' by simpa using List.find?_some hl]
    case isFalse h =>
      cases hl : l.find? (key · = k')
      case none   => rfl
      case some a =>
        have ha : key a = k' := by simpa using List.find?_some hl
        simp [ha, h]

theorem values (i : Indexes key l m) : m.entries.map (·.2) = (l : Multiset α) := by
  have hk : (l.map fun a => (⟨key a, a⟩ : Sigma fun _ : κ => α)).NodupKeys := by
    simpa [List.NodupKeys, List.keys, List.map_map, Function.comp_def] using i.nodup
  have hd k : (l.map fun a => (⟨key a, a⟩ : Sigma fun _ : κ => α)).dlookup k =
      l.find? (key · = k) := by
    clear hk i
    induction l
    case nil => rfl
    case cons a l hi =>
      by_cases h : key a = k
      case pos => subst h; simp
      case neg => simp [h, Ne.symm h, hi, List.dlookup_cons_ne]
  have hm : m = AList.toFinmap ⟨_, hk⟩ := by
    refine Finmap.ext_lookup fun k => ?_
    rw [i.lookup, Finmap.lookup_toFinmap]
    exact (hd k).symm
  rw [hm]
  simp [AList.toFinmap, Function.comp_def]

end Indexes

end HashMap
