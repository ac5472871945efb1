import Mathlib.Data.List.Sort
import Mathlib.Data.List.Nodup

-- Sorting by a key. If the keys are distinct, then the result only depends on what is sorted.
namespace SortByKey

variable [LinearOrder κ] {key : α → κ} {l l₁ l₂ : List α}

def sortByKey (key : α → κ) (l : List α) : List α :=
  l.insertionSort (key · ≤ key ·)

theorem perm (l : List α) : (sortByKey key l).Perm l :=
  List.perm_insertionSort _ l

theorem pairwise_le (l : List α) : (sortByKey key l).Pairwise (key · ≤ key ·) :=
  have : Std.Total (α := α) (key · ≤ key ·) := ⟨fun a b => le_total (key a) (key b)⟩
  have : IsTrans α (key · ≤ key ·) := ⟨fun _ _ _ => le_trans⟩
  List.pairwise_insertionSort _ l

theorem pairwise_lt (h : (l.map key).Nodup) : (sortByKey key l).Pairwise (key · < key ·) := by
  have distinct : (sortByKey key l).Pairwise (key · ≠ key ·) :=
    List.pairwise_map.mp <| ((perm l).map key).nodup_iff.mpr h
  exact ((pairwise_le l).and distinct).imp fun h => lt_of_le_of_ne h.left h.right

-- The keys of a sorted list only depend on the keys of the list.
theorem map_eq_of_perm (h₁ : l₁.Pairwise (key · ≤ key ·)) (h₂ : l₂.Pairwise (key · ≤ key ·))
    (hp : l₁.Perm l₂) : l₁.map key = l₂.map key :=
  (hp.map key).eq_of_pairwise (fun _ _ _ _ => le_antisymm) (List.pairwise_map.mpr h₁)
    (List.pairwise_map.mpr h₂)

-- What has greater keys than everything else comes after everything else.
theorem sortByKey_isPrefix (hn : (l₁.map key).Nodup) (hp : l.Perm (l₁ ++ l₂))
    (h : ∀ a ∈ l₁, ∀ b ∈ l₂, key a < key b) : sortByKey key l₁ <+: sortByKey key l := by
  have sorted : (sortByKey key l₁ ++ sortByKey key l₂).Pairwise (key · ≤ key ·) := by
    refine List.pairwise_append.mpr ⟨pairwise_le l₁, pairwise_le l₂, ?_⟩
    exact fun a ha b hb => (h a ((perm l₁).mem_iff.mp ha) b ((perm l₂).mem_iff.mp hb)).le
  have keys : (sortByKey key l).map key = (sortByKey key l₁ ++ sortByKey key l₂).map key :=
    map_eq_of_perm (pairwise_le l) sorted <|
      (perm l).trans <| hp.trans <| ((perm l₁).append (perm l₂)).symm
  rw [List.prefix_iff_getElem?]
  intro n hl
  have hk := congrArg (·[n]?) keys
  simp only [List.getElem?_map, List.getElem?_append_left hl, List.getElem?_eq_getElem hl,
    Option.map_some, Option.map_eq_some_iff] at hk
  obtain ⟨a, ha, hk⟩ := hk
  have first : (sortByKey key l₁)[n] ∈ l₁ := (perm l₁).mem_iff.mp <| List.getElem_mem hl
  -- Its key is too small for one of the others.
  have hm : a ∈ l₁ := by
    have := hp.mem_iff.mp <| (perm l).mem_iff.mp <| List.mem_of_getElem? ha
    rcases List.mem_append.mp this with hm | hm
    case inl => exact hm
    case inr => exact absurd hk (h _ first a hm).ne'
  rw [ha, List.inj_on_of_nodup_map hn hm first hk]

end SortByKey
