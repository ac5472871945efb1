import Mathlib.Data.List.Nodup

-- Rows of a database table under a unique index. Rows for which the key is not defined are not part
-- of the index.
namespace Table

variable {key : α → Option κ} {rows : List α} {row : α}

def Unique (key : α → Option κ) (rows : List α) : Prop :=
  (rows.filterMap key).Nodup

def Admits (key : α → Option κ) (rows : List α) (row : α) : Prop :=
  ∀ k ∈ key row, k ∉ rows.filterMap key

instance [DecidableEq κ] : Decidable (Admits key rows row) :=
  inferInstanceAs <| Decidable (∀ k ∈ key row, k ∉ rows.filterMap key)

theorem admits_append :
    Admits key (rows ++ [r]) row ↔ Admits key rows row ∧ ∀ k ∈ key row, key r ≠ some k := by
  simp only [Admits, List.filterMap_append, List.mem_append, not_or, forall_and]
  refine and_congr_right fun _ => forall_congr' fun k => forall_congr' fun _ => ?_
  cases h : key r <;> simp [h, eq_comm]

namespace Unique

theorem nil : Unique key [] :=
  List.nodup_nil

theorem append (u : Unique key rows) (a : Admits key rows row) : Unique key (rows ++ [row]) := by
  unfold Unique at u ⊢
  rw [List.filterMap_append, List.nodup_append]
  cases h : key row
  case none   => simpa [h] using u
  case some k =>
    refine ⟨u, by simp [h], ?_⟩
    intro k₁ hk₁ k₂ hk₂ he
    have hk : k₂ = k := by simpa [h] using hk₂
    exact a k h (hk ▸ he ▸ hk₁)

theorem map {f : α → α} (u : Unique key rows) (h : ∀ row, key (f row) = key row) :
    Unique key (rows.map f) := by
  unfold Unique at u ⊢
  rw [List.filterMap_map, show key ∘ f = key from funext h]
  exact u

-- A key selects at most one row.
theorem filter_eq_singleton [DecidableEq κ] (u : Unique key rows) (h : row ∈ rows)
    (hk : key row = some k) : rows.filter (key · = some k) = [row] := by
  induction rows
  case nil => contradiction
  case cons r rows hi =>
    unfold Unique at u hi
    by_cases hr : key r = some k
    case pos =>
      -- The remaining rows do not contain the key of the first one.
      rw [List.filterMap_cons_some hr, List.nodup_cons, List.mem_filterMap] at u
      have rest : rows.filter (key · = some k) = [] := by
        rw [List.filter_eq_nil_iff]
        exact fun r' hr' he => u.left ⟨r', hr', by simpa using he⟩
      have hd : r = row := by
        cases h
        case head   => rfl
        case tail h => exact absurd ⟨row, h, hk⟩ u.left
      simp [hk, rest, hd]
    case neg =>
      cases h
      case head   => contradiction
      case tail h =>
        have u := u.sublist <| (List.sublist_cons_self r rows).filterMap key
        simpa [hr] using hi u h

end Unique

-- A table with a primary key.
structure Keyed (key : α → κ) where
  rows   : List α := []
  unique : Unique (some <| key ·) rows := by exact .nil

namespace Keyed

variable [DecidableEq κ] {key : α → κ} {k : κ} (t : Keyed key)

def select (k : κ) : Option α :=
  t.rows.find? (key · = k)

theorem select_eq_none_iff {t : Keyed key} : t.select k = none ↔ ¬t.rows.any (key · = k) := by
  simp [select]

theorem admits_of_select {t : Keyed key} (h : t.select (key row) = none) :
    Admits (some <| key ·) t.rows row := by
  intro k hk hm
  obtain ⟨r, hr, hrk⟩ := List.mem_filterMap.mp hm
  have he : key r = key row := Option.some.inj <| hrk.trans hk.symm
  exact List.find?_eq_none.mp h r hr (by simp [he])

def insert (row : α) (h : t.select (key row) = none) : Keyed key where
  rows   := t.rows ++ [row]
  unique := t.unique.append (admits_of_select h)

def update (k : κ) (f : α → α) (hf : ∀ row, key (f row) = key row) : Keyed key where
  rows   := t.rows.map fun row => if key row = k then f row else row
  unique := t.unique.map fun row => by
    split
    case isTrue  => rw [hf]
    case isFalse => rfl

-- `INSERT ... ON CONFLICT DO NOTHING`
def insertOrIgnore (row : α) : Keyed key :=
  match h : t.select (key row) with
  | none   => t.insert row h
  | some _ => t

-- `INSERT ... ON CONFLICT DO UPDATE`
def insertOrUpdate (row : α) (f : α → α) (hf : ∀ row, key (f row) = key row) : Keyed key :=
  match h : t.select (key row) with
  | none   => t.insert row h
  | some _ => t.update (key row) f hf

variable {t} {f : α → α} {hf : ∀ row, key (f row) = key row}

theorem insertOrIgnore_of_none (h : t.select (key row) = none) :
    t.insertOrIgnore row = t.insert row h := by
  unfold insertOrIgnore
  split
  case h_1      => rfl
  case h_2 _ hs => rw [h] at hs; cases hs

theorem insertOrUpdate_of_none (h : t.select (key row) = none) :
    t.insertOrUpdate row f hf = t.insert row h := by
  unfold insertOrUpdate
  split
  case h_1      => rfl
  case h_2 _ hs => rw [h] at hs; cases hs

theorem select_isSome_iff : (t.select k).isSome ↔ t.rows.any (key · = k) := by
  rw [select, List.find?_isSome, List.any_eq_true]

theorem rows_insertOrIgnore :
    (t.insertOrIgnore row).rows =
      if t.rows.any (key · = key row) then t.rows else t.rows ++ [row] := by
  unfold insertOrIgnore
  split
  case h_1 h   => rw [if_neg (select_eq_none_iff.mp h)]; rfl
  case h_2 _ h => rw [if_pos (select_isSome_iff.mp <| Option.isSome_of_mem h)]

theorem rows_insertOrUpdate :
    (t.insertOrUpdate row f hf).rows =
      if t.rows.any (key · = key row) then
        t.rows.map fun r => if key r = key row then f r else r
      else
        t.rows ++ [row] := by
  unfold insertOrUpdate
  split
  case h_1 h   => rw [if_neg (select_eq_none_iff.mp h)]; rfl
  case h_2 _ h => rw [if_pos (select_isSome_iff.mp <| Option.isSome_of_mem h)]; rfl

theorem select_insert (h : t.select (key row) = none) :
    (t.insert row h).select k = if k = key row then some row else t.select k := by
  unfold select insert
  rw [List.find?_append]
  by_cases hk : k = key row
  case pos =>
    subst hk
    unfold select at h
    simp [h]
  case neg => simp [hk, Ne.symm hk]

theorem select_update :
    (t.update k f hf).select k' = if k' = k then (t.select k').map f else t.select k' := by
  have hu (row : α) : key (if key row = k then f row else row) = key row := by
    split
    case isTrue  => rw [hf]
    case isFalse => rfl
  simp only [select, update, List.find?_map, Function.comp_def, hu]
  cases h : t.rows.find? (key · = k')
  case none     => simp
  case some row =>
    have hr : key row = k' := by simpa using List.find?_some h
    by_cases hk : k' = k <;> simp [hr, hk]

theorem select_insertOrUpdate :
    (t.insertOrUpdate row f hf).select k =
      if k = key row then some ((t.select k).elim row f) else t.select k := by
  unfold insertOrUpdate
  split
  case h_1 h =>
    rw [select_insert]
    split
    case isTrue hk => rw [hk, h]; rfl
    case isFalse   => rfl
  case h_2 r h =>
    rw [select_update]
    split
    case isTrue hk => rw [hk, h]; rfl
    case isFalse   => rfl

end Keyed

end Table
