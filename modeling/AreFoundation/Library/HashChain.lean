import Mathlib.Data.List.Chain
import Mathlib.Data.List.Induction
import Mathlib.Data.Set.Function
import Mathlib.Tactic.Common

-- Chains of entries in which each entry carries the hash of its predecessor.
namespace HashChain

section Parts

variable {l : List α} {p : α → Bool}

-- What is selected is a part of the list without gaps if the selection ends once and for all.
theorem filter_prefix (h : l.Pairwise fun x y => p y → p x) : l.filter p <+: l := by
  induction l
  case nil => exact List.prefix_rfl
  case cons x l hi =>
    rw [List.pairwise_cons] at h
    by_cases hx : p x
    case pos =>
      rw [List.filter_cons_of_pos hx, List.cons_prefix_cons]
      exact ⟨rfl, hi h.right⟩
    case neg =>
      have hn : l.filter p = [] := List.filter_eq_nil_iff.mpr fun y hy hp => hx <| h.left y hy hp
      rw [List.filter_cons_of_neg hx, hn]
      exact List.nil_prefix

theorem filter_suffix (h : l.Pairwise fun x y => p x → p y) : l.filter p <:+ l := by
  rw [← List.reverse_prefix, ← List.filter_reverse]
  exact filter_prefix <| List.pairwise_reverse.mpr h

end Parts

structure Format (ε η β : Type*) where
  prev    : ε → η
  hash    : ε → η
  encode  : ε → β
  digest  : β → η
  genesis : β

namespace Format

variable {F : Format ε η β} {e : ε} {es fs : List ε} {h : η}

-- `F.Linked h es` states that the first entry of `es` follows the hash `h`, every later one follows
-- the hash of the entry before it, and every hash is the digest of the entry's own encoding.
def Linked (F : Format ε η β) : η → List ε → Prop
  | _, []      => True
  | h, e :: es => F.prev e = h ∧ F.hash e = F.digest (F.encode e) ∧ F.Linked (F.hash e) es

def tip (F : Format ε η β) (h : η) (es : List ε) : η :=
  es.getLast?.elim h F.hash

@[simp]
theorem tip_nil : F.tip h [] = h :=
  rfl

@[simp]
theorem tip_append_singleton : F.tip h (es ++ [e]) = F.hash e := by
  simp [tip]

theorem tip_cons : F.tip h (e :: es) = F.tip (F.hash e) es := by
  cases es <;> simp [tip, List.getLast?_cons]

theorem linked_append : F.Linked h (es ++ fs) ↔ F.Linked h es ∧ F.Linked (F.tip h es) fs := by
  induction es generalizing h
  case nil          => simp [Linked]
  case cons e es hi => simp [Linked, hi, tip_cons, and_assoc]

theorem linked_append_singleton :
    F.Linked h (es ++ [e]) ↔
      F.Linked h es ∧ F.prev e = F.tip h es ∧ F.hash e = F.digest (F.encode e) := by
  simp [linked_append, Linked]

theorem linked_iff :
    F.Linked h es ↔
      (∀ e ∈ es.head?, F.prev e = h) ∧ es.IsChain (fun e f => F.prev f = F.hash e) ∧
      (∀ e ∈ es, F.hash e = F.digest (F.encode e)) := by
  induction es generalizing h
  case nil => simp [Linked]
  case cons e es hi =>
    simp only [Linked, hi, List.isChain_cons, List.forall_mem_cons, List.head?_cons, Option.mem_def,
      Option.some.injEq, forall_eq']
    tauto

theorem Linked.exists_digest_eq_prev (l : F.Linked (F.digest b) es) (he : e ∈ es) :
    ∃ b, F.prev e = F.digest b := by
  induction es generalizing b
  case nil => contradiction
  case cons hi =>
    have ⟨hp, hh, hl⟩ := l
    cases he
    case head   => exact ⟨b, hp⟩
    case tail h => exact hi (hh ▸ hl) h

-- A tip commits to the chain below it. The digest need not be injective: it suffices that it does
-- not collide on the genesis input and the encodings of the entries of the two chains.
theorem Linked.eq_of_tip_eq {S : Set β} (hS : S.InjOn F.digest) (hg : F.genesis ∈ S)
    (hp : ∀ e ∈ es, ∀ f ∈ fs, F.encode e = F.encode f → F.prev e = F.prev f)
    (hes : ∀ e ∈ es, F.encode e ∈ S ∧ F.encode e ≠ F.genesis)
    (hfs : ∀ f ∈ fs, F.encode f ∈ S ∧ F.encode f ≠ F.genesis)
    (l₁ : F.Linked (F.digest F.genesis) es) (l₂ : F.Linked (F.digest F.genesis) fs)
    (ht : F.tip (F.digest F.genesis) es = F.tip (F.digest F.genesis) fs) :
    es.map (fun e => (F.hash e, F.prev e, F.encode e)) =
      fs.map (fun f => (F.hash f, F.prev f, F.encode f)) := by
  -- The induction peels off the last entries: equal tips give equal encodings, these contain equal
  -- previous hashes, and the previous hashes are the tips of the remaining chains.
  induction es using List.reverseRecOn generalizing fs <;> cases fs using List.reverseRecOn
  case nil.nil => rfl
  case nil.append_singleton fs f _ =>
    have ⟨_, _, hh⟩ := linked_append_singleton.mp l₂
    have ⟨hm, hn⟩ := hfs f (by simp)
    rw [tip_nil, tip_append_singleton, hh] at ht
    exact absurd (hS hm hg ht.symm) hn
  case append_singleton.nil es e _ =>
    have ⟨_, _, hh⟩ := linked_append_singleton.mp l₁
    have ⟨hm, hn⟩ := hes e (by simp)
    rw [tip_nil, tip_append_singleton, hh] at ht
    exact absurd (hS hm hg ht) hn
  case append_singleton.append_singleton es e hi fs f _ =>
    have ⟨l₁', hpe, hhe⟩ := linked_append_singleton.mp l₁
    have ⟨l₂', hpf, hhf⟩ := linked_append_singleton.mp l₂
    rw [tip_append_singleton, tip_append_singleton] at ht
    have henc := hS (hes e <| by simp).left (hfs f <| by simp).left (hhe ▸ hhf ▸ ht)
    have hprev := hp e (by simp) f (by simp) henc
    have hmap : es.map (fun e => (F.hash e, F.prev e, F.encode e)) =
        fs.map (fun f => (F.hash f, F.prev f, F.encode f)) := by
      apply hi _ _ _ l₁' l₂' (hpe ▸ hpf ▸ hprev)
      case _ => exact fun e he f hf => hp e (List.mem_append_left _ he) f (List.mem_append_left _ hf)
      case _ => exact fun e he => hes e <| List.mem_append_left _ he
      case _ => exact fun f hf => hfs f <| List.mem_append_left _ hf
    simp [hmap, ht, hprev, henc]

end Format

end HashChain
