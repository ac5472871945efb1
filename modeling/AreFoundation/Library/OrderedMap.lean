import Mathlib.Data.List.Nodup
import Mathlib.Tactic.Common

-- Maps that are iterated in the order in which their keys were first inserted.
@[ext]
structure OrderedMap (κ ν : Type*) where
  entries : List (κ × ν) := []
  nodup   : (entries.map Prod.fst).Nodup := by exact List.nodup_nil

namespace OrderedMap

instance : Membership (κ × ν) (OrderedMap κ ν) where
  mem m e := e ∈ m.entries

theorem mem_def {m : OrderedMap κ ν} {e : κ × ν} : e ∈ m ↔ e ∈ m.entries :=
  Iff.rfl

theorem eq_of_mem {m : OrderedMap κ ν} (h : (k, v) ∈ m) (h' : (k, v') ∈ m) : v = v' := by
  have := List.inj_on_of_nodup_map m.nodup h h' rfl
  exact (Prod.mk.inj this).right

variable (m : OrderedMap κ ν)

def keys : List κ := m.entries.map Prod.fst

def values : List ν := m.entries.map Prod.snd

def size : Nat := m.entries.length

def filter (p : κ × ν → Bool) : OrderedMap κ ν where
  entries := m.entries.filter p
  nodup   := m.nodup.sublist <| List.Sublist.map _ List.filter_sublist

-- The values for which `f` yields something.
def filterMap (f : ν → Option μ) : OrderedMap κ μ where
  entries := m.entries.filterMap fun e => (f e.2).map (e.1, ·)
  nodup   := by
    have hs : ((m.entries.filterMap fun e => (f e.2).map (e.1, ·)).map Prod.fst).Sublist
        (m.entries.map Prod.fst) := by
      induction m.entries
      case nil => exact .slnil
      case cons e tl hi =>
        cases h : f e.2
        case none => simpa [h] using hi.cons e.1
        case some => simpa [h] using hi
    exact m.nodup.sublist hs

variable {m}

@[simp]
theorem mem_filterMap {f : ν → Option μ} {u : μ} :
    (k, u) ∈ m.filterMap f ↔ ∃ v, (k, v) ∈ m ∧ f v = some u := by
  simp only [mem_def, filterMap, List.mem_filterMap, Option.map_eq_some_iff, Prod.mk.injEq,
    Prod.exists]
  constructor
  case mp =>
    rintro ⟨_, v, hm, _, hf, rfl, rfl⟩
    exact ⟨v, hm, hf⟩
  case mpr =>
    intro ⟨v, hm, hf⟩
    exact ⟨k, v, hm, u, hf, rfl, rfl⟩

@[simp]
theorem mem_filter {p : κ × ν → Bool} : e ∈ m.filter p ↔ e ∈ m ∧ p e :=
  List.mem_filter

theorem mem_keys : k ∈ m.keys ↔ ∃ v, (k, v) ∈ m := by
  simp [keys, mem_def]

theorem mem_values : v ∈ m.values ↔ ∃ k, (k, v) ∈ m := by
  simp [values, mem_def]

variable [DecidableEq κ] (m)

def get? (k : κ) : Option ν :=
  m.entries.find? (·.1 = k) |>.map (·.2)

def delete (k : κ) : OrderedMap κ ν :=
  m.filter (·.1 ≠ k)

-- An entry that exists keeps its place.
def set (k : κ) (v : ν) : OrderedMap κ ν :=
  if h : k ∈ m.keys then
    { entries := m.entries.map fun e => if e.1 = k then (k, v) else e
      nodup   := by
        have : (Prod.fst ∘ fun e : κ × ν => if e.1 = k then (k, v) else e) = Prod.fst := by
          funext e
          by_cases he : e.1 = k <;> simp [he]
        simpa only [List.map_map, this] using m.nodup }
  else
    { entries := m.entries ++ [(k, v)]
      nodup   := by
        rw [List.map_append]
        exact m.nodup.append (List.nodup_singleton k) (by simpa [keys] using h) }

variable {m} {k k' : κ} {v v' : ν}

theorem get?_eq_some_iff : m.get? k = some v ↔ (k, v) ∈ m := by
  simp only [get?, Option.map_eq_some_iff, Prod.exists]
  constructor
  case mp =>
    intro ⟨k', v', hf, hv⟩
    have hk := List.find?_some hf
    simp only [decide_eq_true_eq] at hk
    exact hk ▸ hv ▸ List.mem_of_find?_eq_some hf
  case mpr =>
    intro h
    have hs : (m.entries.find? (·.1 = k)).isSome := List.find?_isSome.mpr ⟨_, h, by simp⟩
    have ⟨⟨k', v'⟩, hf⟩ := Option.isSome_iff_exists.mp hs
    have hk := List.find?_some hf
    simp only [decide_eq_true_eq] at hk
    subst hk
    exact ⟨_, _, hf, eq_of_mem (List.mem_of_find?_eq_some hf) h⟩

@[simp]
theorem mem_delete : (k', v') ∈ m.delete k ↔ (k', v') ∈ m ∧ k' ≠ k := by
  simp [delete]

@[simp]
theorem mem_set :
    (k', v') ∈ m.set k v ↔ (k' = k ∧ v' = v) ∨ (k' ≠ k ∧ (k', v') ∈ m) := by
  unfold set
  split
  case isTrue h =>
    have ⟨u, hu⟩ := mem_keys.mp h
    simp only [mem_def, List.mem_map] at hu ⊢
    constructor
    case mp =>
      intro ⟨e, he, heq⟩
      split at heq
      case isTrue     => exact .inl ⟨(Prod.mk.inj heq).1.symm, (Prod.mk.inj heq).2.symm⟩
      case isFalse hk => subst heq; exact .inr ⟨hk, he⟩
    case mpr =>
      rintro (⟨rfl, rfl⟩ | ⟨hk, he⟩)
      case inl => exact ⟨_, hu, by simp⟩
      case inr => exact ⟨_, he, by simp [hk]⟩
  case isFalse h =>
    have hn : ∀ {u}, (k, u) ∉ m.entries := fun hu => h <| mem_keys.mpr ⟨_, hu⟩
    simp only [mem_def, List.mem_append, List.mem_singleton, Prod.mk.injEq]
    constructor
    case mp =>
      rintro (he | he)
      case inl => exact .inr ⟨fun hk => hn (hk ▸ he), he⟩
      case inr => exact .inl he
    case mpr => exact fun h => h.symm.imp (·.right) id

theorem get?_set : (m.set k v).get? k' = if k' = k then some v else m.get? k' := by
  ext v'
  rw [get?_eq_some_iff, mem_set]
  split
  case isTrue h  => simp [h, eq_comm]
  case isFalse h => simp [h, get?_eq_some_iff]

theorem get?_set_of_ne (h : k' ≠ k) : (m.set k v).get? k' = m.get? k' := by
  rw [get?_set, if_neg h]

theorem get?_filterMap {f : ν → Option μ} : (m.filterMap f).get? k = (m.get? k).bind f := by
  ext u
  simp [get?_eq_some_iff, Option.bind_eq_some_iff]

-- Values that are written later override the earlier ones.
theorem get?_foldl_set {m' : OrderedMap κ ν} :
    (m'.entries.foldl (fun out e => out.set e.1 e.2) m).get? k = (m'.get? k).or (m.get? k) := by
  obtain ⟨entries, nodup⟩ := m'
  induction entries generalizing m
  case nil => rfl
  case cons e tl hi =>
    rw [List.map_cons, List.nodup_cons] at nodup
    rw [List.foldl_cons, hi nodup.right, get?_set]
    by_cases he : k = e.1
    case pos =>
      subst he
      have hn : get? ⟨tl, nodup.right⟩ e.1 = none := by
        have : ∀ e' ∈ tl, e'.1 ≠ e.1 := fun _ h h' => nodup.left <| h' ▸ List.mem_map_of_mem h
        simpa [get?] using this
      rw [hn]
      simp [get?]
    case neg => simp [get?, he, Ne.symm he]

end OrderedMap
