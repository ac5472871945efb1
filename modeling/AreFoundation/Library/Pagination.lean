import Mathlib.Data.Finset.Sort
import Mathlib.Data.List.Basic
import Mathlib.Order.Lattice
import Mathlib.Tactic.Common
import AreFoundation.Library.HashMap

-- Lists that are read in pages, where each page comes with a token for the next one.
namespace Pagination

section Collect

variable [DecidableEq κ] (fetch : κ → List α × κ) (final : κ)

-- Passes every token back until the final one is returned.
def collect : Nat → κ → Option (List α)
  | 0,        _     => none
  | fuel + 1, token =>
    if (fetch token).2 = final then
      some (fetch token).1
    else
      collect fuel (fetch token).2 |>.map ((fetch token).1 ++ ·)

variable {fetch final}

theorem collect_map {f : α → β} :
    collect (fun token => ((fetch token).1.map f, (fetch token).2)) final fuel token =
      (collect fetch final fuel token).map (List.map f) := by
  induction fuel generalizing token
  case zero => rfl
  case succ hi =>
    simp only [collect]
    split
    case isTrue  => rfl
    case isFalse =>
      rw [hi, Option.map_map, Option.map_map]
      congr 1
      funext rows
      simp

end Collect

section Follow

-- A client that passes every token back until none is returned, with at most `fuel` calls. The calls
-- are numbered, since what is stored may have changed when the next one is made. The result also
-- tells whether the last answer came without a token.
def follow (fetch : Nat → Option τ → Except ε β) (next : β → Option τ) :
    Nat → Nat → Option τ → Except ε (List β × Bool)
  | 0,        _, _     => .ok ([], false)
  | fuel + 1, k, token => do
    let answer ← fetch k token
    match next answer with
    | none       => return ([answer], true)
    | some token => do
      let r ← follow fetch next fuel (k + 1) (some token)
      return (answer :: r.1, r.2)

variable {fetch : Nat → Option τ → Except ε β} {items : β → List α} {next : β → Option τ}
variable {rows : Nat → List α} {size : Nat} {offset : Option τ → Nat} {token : Option τ}

-- Every answer holds the rows from the offset of its token on, and the token for what is left.
structure OffsetPages (fetch : Nat → Option τ → Except ε β) (items : β → List α)
    (next : β → Option τ) (rows : Nat → List α) (size : Nat) (offset : Option τ → Nat) : Prop where
  ok   : ∀ k token, ∃ answer, fetch k token = .ok answer
  page : ∀ {k token answer}, fetch k token = .ok answer →
    items answer = ((rows k).drop (offset token)).take size
  left : ∀ {k token answer}, fetch k token = .ok answer →
    (next answer).map (offset ∘ some) =
      if offset token + (items answer).length < (rows k).length then
        some (offset token + (items answer).length)
      else
        none

-- What a client has got that started at an offset with call `k`.
structure Followed (fetch : Nat → Option τ → Except ε β) (items : β → List α)
    (rows : Nat → List α) (size : Nat) (k fuel start : Nat) (answers : List β) (ended : Bool) :
    Prop where
  answered   : ∀ {i answer}, answers[i]? = some answer → ∃ token, fetch (k + i) token = .ok answer
  full       : ∀ {answer}, answer ∈ answers.dropLast → (items answer).length = size
  -- Rows are returned in their places.
  element    : ∀ {n a}, (answers.flatMap items)[n]? = some a →
    ∃ i < answers.length, (rows (k + i))[start + n]? = some a
  complete   : ended = true → ∃ last, answers.length = last + 1 ∧
    (rows (k + last)).length ≤ start + (answers.flatMap items).length
  unfinished : ended = false → (answers.flatMap items).length = size * fuel

namespace OffsetPages

variable {answer : β}

theorem length_of_last (p : OffsetPages fetch items next rows size offset)
    (h : fetch k token = .ok answer) (hn : next answer = none) :
    (rows k).length ≤ offset token + (items answer).length := by
  have ht := p.left h
  rw [hn, Option.map_none] at ht
  split at ht
  case isTrue     => cases ht
  case isFalse hl => exact Nat.le_of_not_lt hl

theorem length_of_token (p : OffsetPages fetch items next rows size offset)
    (h : fetch k token = .ok answer) (hn : next answer = some token') :
    (items answer).length = size ∧ offset (some token') = offset token + size := by
  have hi := p.page h
  have ht := p.left h
  rw [hn, Option.map_some] at ht
  split at ht
  case isFalse   => cases ht
  case isTrue hl =>
    have he := Option.some.inj ht
    rw [Function.comp_apply] at he
    have hs : (items answer).length = size := by
      rw [hi, List.length_take, List.length_drop] at hl ⊢
      omega
    exact ⟨hs, hs ▸ he⟩

theorem getElem?_items (p : OffsetPages fetch items next rows size offset)
    (h : fetch k token = .ok answer) (hn : (items answer)[n]? = some a) :
    (rows k)[offset token + n]? = some a := by
  rw [p.page h, List.getElem?_take] at hn
  split at hn
  case isTrue  => rwa [List.getElem?_drop] at hn
  case isFalse => cases hn

end OffsetPages

theorem rows_isPrefix (hg : ∀ i, rows i <+: rows (i + 1)) (i n : Nat) :
    rows i <+: rows (i + n) := by
  induction n
  case zero    => exact List.prefix_rfl
  case succ hi => exact hi.trans <| hg _

namespace Followed

variable {answers : List β} {answer : β} {start : Nat}

theorem last (p : OffsetPages fetch items next rows size offset) (h : fetch k token = .ok answer)
    (hn : next answer = none) :
    Followed fetch items rows size k fuel (offset token) [answer] true where
  answered {i a} hi := by
    cases i
    case zero => exact ⟨token, Option.some.inj hi ▸ h⟩
    case succ => simp at hi
  full hm      := by simp at hm
  element hm   := ⟨0, Nat.one_pos, p.getElem?_items h (by simpa using hm)⟩
  complete _   := ⟨0, rfl, by simpa using p.length_of_last h hn⟩
  unfinished h := by cases h

theorem cons (p : OffsetPages fetch items next rows size offset) (h : fetch k token = .ok answer)
    (hn : next answer = some token')
    (f : Followed fetch items rows size (k + 1) fuel (offset (some token')) answers ended) :
    Followed fetch items rows size k (fuel + 1) (offset token) (answer :: answers) ended := by
  obtain ⟨hs, ho⟩ := p.length_of_token h hn
  rw [ho] at f
  have next_call (i : Nat) : k + (i + 1) = k + 1 + i := by omega
  refine ⟨?answered, ?full, ?element, ?complete, ?unfinished⟩
  case answered =>
    intro i a hi
    cases i
    case zero   => exact ⟨token, Option.some.inj hi ▸ h⟩
    case succ i => exact next_call i ▸ f.answered hi
  case full =>
    intro a hm
    cases answers
    case nil       => simp at hm
    case cons b bs =>
      rw [List.dropLast_cons_cons] at hm
      rcases List.mem_cons.mp hm with rfl | hm
      case inl => exact hs
      case inr => exact f.full hm
  case element =>
    intro n a hm
    rw [List.flatMap_cons, List.getElem?_append] at hm
    split at hm
    case isTrue     => exact ⟨0, Nat.succ_pos _, p.getElem?_items h hm⟩
    case isFalse hl =>
      obtain ⟨i, hi, he⟩ := f.element hm
      refine ⟨i + 1, Nat.succ_lt_succ hi, ?_⟩
      rw [next_call, ← he]
      congr 1
      omega
  case complete =>
    intro he
    obtain ⟨last, hl, hr⟩ := f.complete he
    refine ⟨last + 1, by rw [List.length_cons, hl], ?_⟩
    rw [next_call, List.flatMap_cons, List.length_append]
    omega
  case unfinished =>
    intro he
    rw [List.flatMap_cons, List.length_append, hs, f.unfinished he, Nat.mul_succ, Nat.add_comm]

-- Rows that every call finds in front come first.
theorem isPrefix_flatMap (f : Followed fetch items rows size k fuel 0 answers ended)
    (hp : ∀ i, front <+: rows (k + i))
    (hl : ended = true ∨ front.length ≤ size * fuel) : front <+: answers.flatMap items := by
  have enough : front.length ≤ (answers.flatMap items).length := by
    cases ended
    case true  =>
      obtain ⟨last, -, hr⟩ := f.complete rfl
      exact (hp last).length_le.trans <| by simpa using hr
    case false => exact (f.unfinished rfl).symm ▸ hl.resolve_left Bool.false_ne_true
  rw [List.prefix_iff_getElem?]
  intro n hn
  have hm := List.getElem?_eq_getElem (hn.trans_le enough)
  obtain ⟨i, -, he⟩ := f.element hm
  rw [Nat.zero_add, List.prefix_iff_getElem?.mp (hp i) n hn] at he
  rw [hm, he]

-- What comes after them is not in front in the call that returned it either.
theorem exists_later {P : α → Prop} (f : Followed fetch items rows size k fuel 0 answers ended)
    (hp : ∀ i, ∃ new, front ++ new = rows (k + i) ∧ ∀ a ∈ new, P a)
    (hl : ended = true ∨ front.length ≤ size * fuel) :
    ∃ later, answers.flatMap items = front ++ later ∧ ∀ a ∈ later, P a := by
  obtain ⟨later, hc⟩ := f.isPrefix_flatMap (fun i => (hp i).imp fun _ h => h.left) hl
  refine ⟨later, hc.symm, fun a ha => ?_⟩
  obtain ⟨n, hn⟩ := List.mem_iff_getElem?.mp ha
  have place : (answers.flatMap items)[front.length + n]? = some a := by
    rw [← hc, List.getElem?_append_right (Nat.le_add_right ..), Nat.add_sub_cancel_left, hn]
  obtain ⟨i, -, hi⟩ := f.element place
  obtain ⟨new, he, hnew⟩ := hp i
  rw [Nat.zero_add, ← he, List.getElem?_append_right (Nat.le_add_right ..),
    Nat.add_sub_cancel_left] at hi
  exact hnew a <| List.mem_of_getElem? hi

-- A client that is not done has got more rows than some call has found.
theorem ended_of_length_lt (f : Followed fetch items rows size k fuel 0 answers ended)
    (hs : 0 < size) (hb : ∀ i, (rows (k + i)).length < fuel) : ended = true := by
  by_contra he
  have length := f.unfinished (Bool.eq_false_iff.mpr he)
  have many : fuel ≤ size * fuel := Nat.le_mul_of_pos_left fuel hs
  have := hb 0
  have last : fuel - 1 < (answers.flatMap items).length := by omega
  obtain ⟨i, -, hi⟩ := f.element (List.getElem?_eq_getElem last)
  obtain ⟨place, -⟩ := List.getElem?_eq_some_iff.mp hi
  have := hb i
  omega

-- If rows are only added at the end, then a client that is done has those of the last call.
theorem flatMap_eq (f : Followed fetch items rows size k fuel 0 answers true)
    (hg : ∀ i, rows i <+: rows (i + 1)) :
    ∃ last, answers.length = last + 1 ∧ answers.flatMap items = rows (k + last) := by
  obtain ⟨last, hl, hr⟩ := f.complete rfl
  refine ⟨last, hl, ?_⟩
  have within : answers.flatMap items <+: rows (k + last) := by
    rw [List.prefix_iff_getElem?]
    intro n hn
    obtain ⟨i, hi, he⟩ := f.element (List.getElem?_eq_getElem hn)
    rw [Nat.zero_add, List.getElem?_eq_some_iff] at he
    obtain ⟨hb, he⟩ := he
    have grown : rows (k + i) <+: rows (k + last) := by
      have := rows_isPrefix hg (k + i) (last - i)
      rwa [Nat.add_assoc, Nat.add_sub_cancel' (by omega)] at this
    rw [List.prefix_iff_getElem?.mp grown n hb, he]
  exact within.eq_of_length_le <| by simpa using hr

end Followed

theorem follow_followed (p : OffsetPages fetch items next rows size offset) (fuel k : Nat)
    (token : Option τ) :
    ∃ answers ended, follow fetch next fuel k token = .ok (answers, ended) ∧
      Followed fetch items rows size k fuel (offset token) answers ended := by
  induction fuel generalizing k token
  case zero => exact ⟨[], false, rfl, by simp, by simp, by simp, by simp, by simp⟩
  case succ fuel hi =>
    obtain ⟨answer, ha⟩ := p.ok k token
    cases hn : next answer
    case none =>
      refine ⟨[answer], true, ?_, .last p ha hn⟩
      simp [follow, ha, hn, bind, Except.bind, pure, Except.pure]
    case some token' =>
      obtain ⟨answers, ended, hf, f⟩ := hi (k + 1) (some token')
      refine ⟨answer :: answers, ended, ?_, .cons p ha hn f⟩
      simp [follow, ha, hn, hf, bind, Except.bind, pure, Except.pure]

end Follow

variable [LinearOrder κ] (key : α → κ)

def sortedKeys (m : HashMap κ α) : List κ :=
  m.keys.sort

theorem sortedKeys_sorted (m : HashMap κ α) : (sortedKeys m).Pairwise (· < ·) :=
  m.keys.sortedLT_sort.pairwise

theorem length_sortedKeys (m : HashMap κ α) : (sortedKeys m).length = m.keys.card :=
  Finset.length_sort ..

-- The rows after a token. The first token stands before all rows.
def rest (rows : List α) (start token : κ) : List α :=
  rows.filter fun row => token = start || token < key row

-- Pages of `n` rows whose token is the key of the first row that is left out.
def page (rows : List α) (n : Nat) (start token : κ) : List α × κ :=
  ((rest key rows start token).take n, ((rest key rows start token)[n]?.map key).getD start)

variable {key} {rows : List α} {start token : κ}

theorem rest_sublist (start token : κ) : (rest key rows start token).Sublist rows :=
  List.filter_sublist

-- Rows in strict order of their keys that come after one of them.
theorem filter_key_lt {front back : List α} {row : α}
    (h : (front ++ row :: back).Pairwise (key · < key ·)) :
    (front ++ row :: back).filter (key row < key ·) = back := by
  rw [List.pairwise_append, List.pairwise_cons] at h
  obtain ⟨_, ⟨hb, _⟩, hf⟩ := h
  have hf' : front.filter (key row < key ·) = [] := by
    rw [List.filter_eq_nil_iff]
    intro r hr
    simpa using le_of_lt (hf r hr row List.mem_cons_self)
  have hb' : back.filter (key row < key ·) = back := by
    rw [List.filter_eq_self]
    intro r hr
    simpa using hb r hr
  rw [List.filter_append, hf', List.filter_cons_of_neg (by simp), hb', List.nil_append]

-- The row whose key is the token is left out on the next page as well.
theorem rest_key (hs : rows.Pairwise (key · < key ·)) (hn : key row ≠ start)
    (h : rest key rows start token = front ++ row :: back) :
    rest key rows start (key row) = back := by
  have hp : (front ++ row :: back).Pairwise (key · < key ·) :=
    h ▸ hs.sublist (rest_sublist start token)
  have hm : row ∈ rest key rows start token := by simp [h]
  have ht : token = start ∨ token < key row := by
    simpa using (List.mem_filter.mp hm).right
  rw [← filter_key_lt hp, ← h, rest, rest, List.filter_filter]
  refine List.filter_congr fun r _ => ?_
  -- The rows after this one are among those that the token before had left.
  by_cases hr : key row < key r
  case pos =>
    have hr' : token = start ∨ token < key r := ht.imp_right (lt_trans · hr)
    simpa [hr] using hr'
  case neg => simp [hr, hn]

theorem key_ne_start (hs : rows.Pairwise (key · < key ·)) (hb : ∀ row ∈ rows, start ≤ key row)
    (h : rest key rows start token = front ++ row :: back) (hf : front ≠ []) : key row ≠ start := by
  have ⟨first, tl, he⟩ := List.exists_cons_of_ne_nil hf
  subst he
  have hp := h ▸ hs.sublist (rest_sublist start token)
  have hl : key first < key row := by
    rw [List.cons_append, List.pairwise_cons] at hp
    exact hp.left row (by simp)
  have hm : first ∈ rows := (rest_sublist start token).subset (by rw [h]; simp)
  exact ne_of_gt (lt_of_le_of_lt (hb first hm) hl)

theorem page_of_length_le (h : (rest key rows start token).length ≤ n) :
    page key rows n start token = (rest key rows start token, start) := by
  simp [page, List.take_of_length_le h, List.getElem?_eq_none h]

theorem page_of_append (h : rest key rows start token = front ++ row :: back) :
    page key rows front.length start token = (front, key row) := by
  simp [page, h]

-- The pages leave out one row between any two of them.
theorem collect_page (hs : rows.Pairwise (key · < key ·)) (hb : ∀ row ∈ rows, start ≤ key row)
    (hn : 0 < n) (hf : (rest key rows start token).length < fuel) :
    ∃ out, collect (page key rows n start) start fuel token = some out ∧
      out.Sublist (rest key rows start token) ∧
      (out = rest key rows start token ↔ (rest key rows start token).length ≤ n) := by
  induction fuel generalizing token
  case zero => contradiction
  case succ fuel hi =>
    by_cases hl : (rest key rows start token).length ≤ n
    case pos =>
      have hc : collect (page key rows n start) start (fuel + 1) token =
          some (rest key rows start token) := by
        rw [collect, page_of_length_le hl, if_pos rfl]
      exact ⟨_, hc, .refl _, iff_of_true rfl hl⟩
    case neg =>
      obtain ⟨front, row, back, he, rfl⟩ : ∃ front row back,
          rest key rows start token = front ++ row :: back ∧ front.length = n := by
        have hl := Nat.lt_of_not_le hl
        have he := List.take_append_drop n (rest key rows start token)
        rw [List.drop_eq_getElem_cons hl] at he
        exact ⟨_, _, _, he.symm, List.length_take_of_le <| Nat.le_of_lt hl⟩
      have hk := key_ne_start hs hb he (List.length_pos_iff.mp hn)
      have hr := rest_key hs hk he
      have ⟨out, ho, hsub, _⟩ := @hi (key row) (by grind)
      rw [hr] at hsub
      have hc : collect (page key rows front.length start) start (fuel + 1) token =
          some (front ++ out) := by
        rw [collect, page_of_append he, if_neg hk, ho]
        rfl
      -- The row between the pages is missing.
      have hlt : (front ++ out).length < (front ++ row :: back).length := by
        have := hsub.length_le
        simp only [List.length_append, List.length_cons]
        omega
      refine ⟨_, hc, he ▸ (List.Sublist.refl front).append (hsub.cons row), iff_of_false ?_ hl⟩
      rw [he]
      exact fun h => Nat.ne_of_lt hlt <| congrArg List.length h

end Pagination
