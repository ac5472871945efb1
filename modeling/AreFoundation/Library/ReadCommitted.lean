import Mathlib.Data.Fintype.Basic
import Mathlib.Logic.Function.Basic

-- Transactions that see what has been committed and what they have changed themselves.
namespace ReadCommitted

-- The changes of a transaction are kept apart until it ends.
structure Store (ι σ δ : Type*) where
  committed : σ
  pending   : ι → List δ

namespace Store

section View

variable (db : Store ι σ δ) (apply : σ → δ → σ)

def view (i : ι) : σ :=
  (db.pending i).foldl apply db.committed

theorem view_of_nil (h : db.pending i = []) : db.view apply i = db.committed := by
  simp [view, h]

end View

section Changes

variable [DecidableEq ι] (db : Store ι σ δ) (i : ι)

def write (changes : List δ) : Store ι σ δ :=
  { db with pending := Function.update db.pending i (db.pending i ++ changes) }

def rollback : Store ι σ δ :=
  { db with pending := Function.update db.pending i [] }

def commit (apply : σ → δ → σ) : Store ι σ δ where
  committed := db.view apply i
  pending   := Function.update db.pending i []

variable {db i} {changes : List δ} {apply : σ → δ → σ}

@[simp]
theorem write_committed : (db.write i changes).committed = db.committed :=
  rfl

@[simp]
theorem commit_committed : (db.commit i apply).committed = db.view apply i :=
  rfl

@[simp]
theorem write_pending_self : (db.write i changes).pending i = db.pending i ++ changes := by
  simp [write]

@[simp]
theorem rollback_pending_self : (db.rollback i).pending i = [] := by
  simp [rollback]

@[simp]
theorem commit_pending_self : (db.commit i apply).pending i = [] := by
  simp [commit]

theorem write_pending_of_ne (h : j ≠ i) : (db.write i changes).pending j = db.pending j := by
  simp [write, h]

theorem rollback_pending_of_ne (h : j ≠ i) : (db.rollback i).pending j = db.pending j := by
  simp [rollback, h]

theorem commit_pending_of_ne (h : j ≠ i) : (db.commit i apply).pending j = db.pending j := by
  simp [commit, h]

theorem write_rollback : (db.write i changes).rollback i = db.rollback i := by
  simp [write, rollback]

theorem rollback_rollback : (db.rollback i).rollback i = db.rollback i := by
  simp [rollback]

theorem commit_rollback : (db.commit i apply).rollback i = db.commit i apply := by
  simp [commit, rollback]

-- Everything that a statement can do.
inductive Effect (db : Store ι σ δ) (i : ι) (apply : σ → δ → σ) (commits : Prop) : Store ι σ δ → Prop
  | read                     : Effect db i apply commits db
  | write (changes : List δ) : Effect db i apply commits (db.write i changes)
  | rollback                 : Effect db i apply commits (db.rollback i)
  | commit (h : commits)     : Effect db i apply commits (db.commit i apply)

namespace Effect

variable {commits : Prop} {db' : Store ι σ δ} (h : db.Effect i apply commits db')

include h

theorem pending_of_ne (hj : j ≠ i) : db'.pending j = db.pending j := by
  cases h
  case read     => rfl
  case write    => exact write_pending_of_ne hj
  case rollback => exact rollback_pending_of_ne hj
  case commit   => exact commit_pending_of_ne hj

theorem committed (hc : ¬commits) : db'.committed = db.committed := by
  cases h
  case commit h => exact absurd h hc
  all_goals rfl

-- What another transaction relies on has to be kept by commits only.
theorem preserves {P : σ → List δ → Prop} (hj : j ≠ i) (hp : P db.committed (db.pending j))
    (hc : commits → P (db.view apply i) (db.pending j)) : P db'.committed (db'.pending j) := by
  rw [h.pending_of_ne hj]
  cases h
  case commit h => exact hc h
  all_goals exact hp

-- The connection is lost after the statement.
theorem andRollback : db.Effect i apply commits (db'.rollback i) := by
  cases h
  case read     => exact .rollback
  case write    => rw [write_rollback]; exact .rollback
  case rollback => rw [rollback_rollback]; exact .rollback
  case commit h => rw [commit_rollback]; exact .commit h

end Effect

end Changes

section Locks

variable (db : Store ι σ δ) (key : δ → κ)

-- A statement that changes a row waits while another transaction that has changed it is open.
def Free (i : ι) (k : κ) : Prop :=
  ∀ j, j ≠ i → ∀ d ∈ db.pending j, key d ≠ k

instance [DecidableEq ι] [Fintype ι] [DecidableEq κ] (i : ι) (k : κ) : Decidable (db.Free key i k) :=
  inferInstanceAs <| Decidable (∀ j, j ≠ i → ∀ d ∈ db.pending j, key d ≠ k)

-- No row is being changed by two transactions.
structure Exclusive : Prop where
  eq : ∀ {i j d d'}, d ∈ db.pending i → d' ∈ db.pending j → key d = key d' → i = j

variable {db key} {db' : Store ι σ δ}

-- If all transactions lock their rows in the order of some levels, one of those that are open does not
-- have to wait: a transaction waits for one that waits, if at all, for a row of a higher level.
theorem exists_free {level : κ → Nat} {w : ι → List κ} (hb : ∀ k, level k ≤ n)
    (h : ∀ i, ∀ k ∈ w i, ∀ d ∈ db.pending i, level (key d) < level k) (i : ι) :
    ∃ j, (j = i ∨ db.pending j ≠ []) ∧ ∀ k ∈ w j, db.Free key j k := by
  have climb (m : Nat) : ∀ i, ∀ k ∈ w i, ¬db.Free key i k → n - level k = m →
      ∃ j, db.pending j ≠ [] ∧ ∀ k ∈ w j, db.Free key j k := by
    induction m using Nat.strong_induction_on
    case h m hi =>
      intro i k _ hf hm
      simp only [Free, not_forall, not_not] at hf
      obtain ⟨j, _, d, hd, rfl⟩ := hf
      by_cases hw : ∀ k ∈ w j, db.Free key j k
      case pos => exact ⟨j, List.ne_nil_of_mem hd, hw⟩
      case neg =>
        push Not at hw
        obtain ⟨k, hk, hf⟩ := hw
        have hlt := h j k hk d hd
        have hle := hb k
        exact hi (n - level k) (by omega) j k hk hf rfl
  by_cases hw : ∀ k ∈ w i, db.Free key i k
  case pos => exact ⟨i, .inl rfl, hw⟩
  case neg =>
    push Not at hw
    obtain ⟨k, hk, hf⟩ := hw
    obtain ⟨j, hp, hj⟩ := climb _ i k hk hf rfl
    exact ⟨j, .inr hp, hj⟩

-- A row that a transaction has changed stays free for it.
theorem Exclusive.free_of_mem (h : db.Exclusive key) (hd : d ∈ db.pending i) :
    db.Free key i (key d) :=
  fun _ hj _ hd' hk => hj (h.eq hd' hd hk)

theorem Exclusive.mono (h : db.Exclusive key) (hs : ∀ j, db'.pending j ⊆ db.pending j) :
    db'.Exclusive key :=
  ⟨fun hd hd' => h.eq (hs _ hd) (hs _ hd')⟩

variable [DecidableEq ι] {i : ι} {changes : List δ}

theorem Exclusive.rollback (h : db.Exclusive key) : (db.rollback i).Exclusive key := by
  refine h.mono fun j => ?_
  by_cases hj : j = i
  case pos => subst hj; simp
  case neg => rw [rollback_pending_of_ne hj]; exact List.Subset.refl _

theorem Exclusive.commit {apply : σ → δ → σ} (h : db.Exclusive key) :
    (db.commit i apply).Exclusive key :=
  ⟨h.rollback.eq⟩

-- Only rows that are free are changed.
theorem Exclusive.write (h : db.Exclusive key) (hf : ∀ d ∈ changes, db.Free key i (key d)) :
    (db.write i changes).Exclusive key := by
  have other {j d d'} (hd : d ∈ (db.write i changes).pending i) (hj : j ≠ i)
      (hd' : d' ∈ db.pending j) (hk : key d = key d') : False := by
    rw [write_pending_self, List.mem_append] at hd
    cases hd
    case inl hd => exact hj (h.eq hd hd' hk).symm
    case inr hd => exact hf d hd j hj d' hd' hk.symm
  refine ⟨fun {j j' d d'} hd hd' hk => ?_⟩
  by_cases hj : j = i
  case pos =>
    subst hj
    by_cases hj' : j' = j
    case pos => exact hj'.symm
    case neg =>
      rw [write_pending_of_ne hj'] at hd'
      exact (other hd hj' hd' hk).elim
  case neg =>
    rw [write_pending_of_ne hj] at hd
    by_cases hj' : j' = i
    case pos =>
      subst hj'
      exact (other hd' hj hd hk.symm).elim
    case neg =>
      rw [write_pending_of_ne hj'] at hd'
      exact h.eq hd hd' hk

end Locks

end Store

end ReadCommitted
