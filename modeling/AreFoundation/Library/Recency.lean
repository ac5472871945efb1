import Mathlib.Data.Finset.Basic
import Mathlib.Data.List.Dedup

-- The members of a set in the order in which they have been used last.
namespace Recency

variable [DecidableEq α] {uses : List α} {s : Finset α} {a b : α}

def order (uses : List α) (s : Finset α) : List α :=
  uses.dedup.filter (· ∈ s)

theorem mem_order : a ∈ order uses s ↔ a ∈ uses ∧ a ∈ s := by
  simp [order]

theorem nodup_order (uses : List α) (s : Finset α) : (order uses s).Nodup :=
  uses.nodup_dedup.filter _

theorem order_erase : order uses (s.erase a) = (order uses s).filter (· ≠ a) := by
  rw [order, order, List.filter_filter]
  apply List.filter_congr
  simp

theorem dedup_concat (uses : List α) (a : α) :
    (uses ++ [a]).dedup = uses.dedup.filter (· ≠ a) ++ [a] := by
  induction uses
  case nil => simp
  case cons b uses hi =>
    rw [List.cons_append, List.dedup_cons, List.dedup_cons, hi]
    by_cases hb : b ∈ uses
    case pos => simp [hb]
    case neg =>
      by_cases ha : b = a
      case pos => subst ha; simp [hb]
      case neg => simp [hb, ha]

theorem order_use (uses : List α) (s : Finset α) (a : α) :
    order (uses ++ [a]) (insert a s) = order uses (s.erase a) ++ [a] := by
  rw [order, dedup_concat, List.filter_append, List.filter_filter, order]
  congr 1
  case e_a =>
    apply List.filter_congr
    intro b _
    by_cases hb : b = a <;> simp [hb]
  case e_a => simp

theorem mem_of_order_eq_cons (h : order uses s = a :: rest) : a ∈ s :=
  (mem_order.mp <| h ▸ List.mem_cons_self).right

-- What has been used longest ago is the only thing that is missing once it is removed.
theorem order_oldest (h : order uses s = a :: rest) : order uses (s.erase a) = rest := by
  have hn := List.nodup_cons.mp <| h ▸ nodup_order uses s
  rw [order_erase, h, List.filter_cons_of_neg (by simp)]
  apply List.filter_eq_self.mpr
  intro b hb
  simpa using ne_of_mem_of_not_mem hb hn.left

end Recency
