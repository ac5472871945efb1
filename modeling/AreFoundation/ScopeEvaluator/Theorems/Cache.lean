import AreFoundation.Library.Recency
import AreFoundation.Library.Transition
import AreFoundation.ScopeEvaluator.Theorems.Invalidation

namespace ScopeEvaluator

namespace PassportCache

-- The calls of the cache with the clock that they read.
inductive Op
  | get (agentId : String) (now : Int)
  | insert (agentId : String) (passport : Passport) (now : Int)
  | invalidate (agentId : String)

-- Nothing is assumed about the clock.
def system : Transition.System PassportCache Op where
  allows _ _ := True
  step cache
    | .get agentId now             => (cache.get agentId now).2
    | .insert agentId passport now => cache.insert agentId passport now
    | .invalidate agentId          => (cache.invalidate agentId).2

-- What callers have done, apart from how the cache keeps track of it: the agents of the insertions
-- and hits in their order, and for each agent the last insertion unless it has been invalidated.
structure History where
  uses     : List String := []
  inserted : String → Option CachedPassport := fun _ => none

def History.record (cache : PassportCache) (op : Op) (history : History) : History :=
  match op with
  | .get a now      =>
    if (cache.get a now).1.isSome then { history with uses := history.uses ++ [a] } else history
  | .insert a p now =>
    ⟨history.uses ++ [a], Function.update history.inserted a (some ⟨p, now⟩)⟩
  | .invalidate a   => { history with inserted := Function.update history.inserted a none }

structure Tracks (history : History) (cache : PassportCache) : Prop where
  order   : cache.lru = Recency.order history.uses cache.entries.keys
  used    : ∀ {a}, a ∈ cache.entries.keys → a ∈ history.uses
  fits    : cache.entries.keys.card ≤ cache.maxEntries
  entries : ∀ {a entry}, cache.entries.lookup a = some entry → history.inserted a = some entry

variable {cache : PassportCache} {history : History} {entries : HashMap String CachedPassport}

theorem keys_insert : (Finmap.insert a entry entries).keys = Insert.insert a entries.keys := by
  ext b
  rw [Finmap.mem_keys, Finmap.mem_insert, Finset.mem_insert, Finmap.mem_keys]

theorem keys_remove : (cache.remove a).entries.keys = cache.entries.keys.erase a := by
  unfold remove
  split
  case isTrue    => exact Finmap.keys_erase a cache.entries
  case isFalse h => exact (Finset.erase_eq_of_notMem <| h ∘ Finmap.mem_keys.mp).symm

theorem maxEntries_remove : (cache.remove a).maxEntries = cache.maxEntries := by
  unfold remove
  split <;> rfl

theorem ttl_remove : (cache.remove a).ttl = cache.ttl := by
  unfold remove
  split <;> rfl

theorem evict_of_fits {lru : List String} (h : entries.keys.card ≤ m) :
    evict m entries lru = (entries, lru) := by
  cases lru
  case nil  => rfl
  case cons => rw [evict, if_neg (by omega)]

-- One removal makes room for one entry.
theorem evict_of_full {lru : List String} (h : entries.keys.card = m + 1)
    (ho : oldest ∈ entries.keys) :
    evict m entries (oldest :: lru) = (entries.erase oldest, lru) := by
  rw [evict, if_pos (by omega), evict_of_fits]
  rw [Finmap.keys_erase, Finset.card_erase_of_mem ho, h, Nat.add_sub_cancel]

-- The entries after an insertion, before anything is evicted.
theorem keys_filled : ((cache.remove a).entries.insert a entry).keys =
    Insert.insert a cache.entries.keys := by
  rw [keys_insert, keys_remove]
  ext b
  by_cases hb : b = a <;> simp [hb]

theorem lookup_filled : ((cache.remove a).entries.insert a entry).lookup b =
    if b = a then some entry else cache.entries.lookup b := by
  rw [HashMap.lookup_insert, lookup_remove]
  split <;> rfl

namespace Tracks

theorem lru_remove (t : Tracks history cache) :
    (cache.remove a).lru = Recency.order history.uses (cache.entries.keys.erase a) := by
  rw [Recency.order_erase, ← t.order]
  unfold remove
  split
  case isTrue    => rfl
  case isFalse h =>
    symm
    apply List.filter_eq_self.mpr
    intro b hb
    rw [t.order, Recency.mem_order, Finmap.mem_keys] at hb
    simpa using ne_of_mem_of_not_mem hb.right h

theorem remove (t : Tracks history cache) : Tracks history (cache.remove a) where
  order     := t.lru_remove.trans <| by rw [keys_remove]
  used h    := t.used <| Finset.mem_of_mem_erase <| keys_remove ▸ h
  fits      := by
    rw [keys_remove, maxEntries_remove]
    exact Finset.card_erase_le.trans t.fits
  entries h := t.entries <| lookup_of_remove h

theorem touch (t : Tracks history cache) (h : cache.entries.lookup a = some entry) :
    Tracks { history with uses := history.uses ++ [a] } (cache.touch a) where
  order := by
    have ha : a ∈ cache.entries.keys := Finmap.mem_keys.mpr <| Finmap.mem_iff.mpr ⟨_, h⟩
    have hu := Recency.order_use history.uses cache.entries.keys a
    rw [Finset.insert_eq_of_mem ha, Recency.order_erase, ← t.order] at hu
    exact hu.symm
  used h  := List.mem_append_left _ <| t.used h
  fits    := t.fits
  entries := t.entries

theorem forget (t : Tracks history (cache.remove a)) :
    Tracks { history with inserted := Function.update history.inserted a none }
      (cache.remove a) where
  order := t.order
  used  := t.used
  fits  := t.fits
  entries {b entry} h := by
    have hb : b ≠ a := by
      rintro rfl
      simp [lookup_remove] at h
    exact (Function.update_of_ne hb ..).trans <| t.entries h

-- An insertion removes nothing if the entry fits, and what has been used longest ago otherwise.
theorem insert_cases (t : Tracks history cache) (a : String) (p : Passport) (now : Int) :
    let entries := (cache.remove a).entries.insert a ⟨p, now⟩
    let order := Recency.order (history.uses ++ [a]) (Insert.insert a cache.entries.keys)
    ((Insert.insert a cache.entries.keys).card ≤ cache.maxEntries ∧
      cache.insert a p now = { cache with entries, lru := order }) ∨
    (¬(Insert.insert a cache.entries.keys).card ≤ cache.maxEntries ∧
      ∃ oldest rest, order = oldest :: rest ∧
        cache.insert a p now = { cache with entries := entries.erase oldest, lru := rest }) := by
  intro entries order
  have keys : entries.keys = Insert.insert a cache.entries.keys := keys_filled
  have lru : (cache.remove a).lru ++ [a] = order := by
    rw [t.lru_remove]
    exact (Recency.order_use _ _ _).symm
  have inserted : cache.insert a p now = { cache with
      entries := (evict cache.maxEntries entries order).1
      lru     := (evict cache.maxEntries entries order).2 } := by
    simp only [PassportCache.insert, lru, maxEntries_remove, ttl_remove]
    rfl
  rw [inserted, ← keys]
  by_cases hc : entries.keys.card ≤ cache.maxEntries
  case pos => exact .inl ⟨hc, by rw [evict_of_fits hc]⟩
  case neg =>
    refine .inr ⟨hc, ?_⟩
    have full : entries.keys.card = cache.maxEntries + 1 := by
      have := Finset.card_insert_le a cache.entries.keys
      have := t.fits
      rw [keys] at hc ⊢
      omega
    cases ho : order
    case nil =>
      rw [← lru] at ho
      simp at ho
    case cons oldest rest =>
      have mem : oldest ∈ entries.keys := by
        rw [keys]
        exact Recency.mem_of_order_eq_cons ho
      exact ⟨oldest, rest, rfl, by rw [evict_of_full full mem]⟩

theorem insert (t : Tracks history cache) (a : String) (p : Passport) (now : Int) :
    Tracks (history.record cache (.insert a p now)) (cache.insert a p now) := by
  have used {b} (hb : b ∈ Insert.insert a cache.entries.keys) : b ∈ history.uses ++ [a] := by
    rw [List.mem_append, List.mem_singleton]
    exact (Finset.mem_insert.mp hb).symm.imp_left t.used
  have recorded {b entry} (h : (if b = a then some ⟨p, now⟩ else cache.entries.lookup b) =
      some entry) : (history.record cache (.insert a p now)).inserted b = some entry := by
    simp only [History.record, Function.update_apply]
    split at h
    case isTrue hb  => rw [if_pos hb, h]
    case isFalse hb => rw [if_neg hb, t.entries h]
  have keys : ((cache.remove a).entries.insert a ⟨p, now⟩).keys =
      Insert.insert a cache.entries.keys :=
    keys_filled
  rcases t.insert_cases a p now with ⟨hc, hi⟩ | ⟨hc, oldest, rest, ho, hi⟩
  case inl =>
    rw [hi]
    refine ⟨?order, ?used, ?fits, ?entries⟩
    case order   => rw [keys]; rfl
    case used    => rw [keys]; exact used
    case fits    => rw [keys]; exact hc
    case entries => exact fun h => recorded <| lookup_filled ▸ h
  case inr =>
    rw [hi]
    refine ⟨?order, ?used, ?fits, ?entries⟩
    case order   => rw [Finmap.keys_erase, keys]; exact (Recency.order_oldest ho).symm
    case used    =>
      rw [Finmap.keys_erase, keys]
      exact fun h => used <| Finset.mem_of_mem_erase h
    case fits    =>
      have mem := Recency.mem_of_order_eq_cons ho
      rw [Finmap.keys_erase, keys, Finset.card_erase_of_mem mem]
      have := Finset.card_insert_le a cache.entries.keys
      exact (Nat.sub_le_of_le_add this).trans t.fits
    case entries =>
      intro b entry h
      rw [HashMap.lookup_erase] at h
      split at h
      case isTrue  => cases h
      case isFalse => exact recorded <| lookup_filled ▸ h

theorem step (t : Tracks history cache) (op : Op) :
    Tracks (history.record cache op) (system.step cache op) := by
  cases op
  case get a now =>
    rcases cache.get_cases a now with hg | hg | ⟨entry, he, hg⟩
    case inl     => simpa [system, History.record, hg] using t
    case inr.inl => simpa [system, History.record, hg] using t.remove
    case inr.inr => simpa [system, History.record, hg] using t.touch he
  case insert a p now => exact t.insert a p now
  case invalidate     => exact t.remove.forget

theorem new (maxEntries ttlSeconds : Nat) : Tracks {} (.new maxEntries ttlSeconds) where
  order     := rfl
  used h    := by simp [PassportCache.new] at h
  fits      := Nat.zero_le _
  entries h := by simp [PassportCache.new] at h

end Tracks

theorem limits_of_step (op : Op) :
    (system.step cache op).maxEntries = cache.maxEntries ∧ (system.step cache op).ttl = cache.ttl := by
  cases op
  case get a now =>
    rcases cache.get_cases a now with hg | hg | ⟨_, _, hg⟩
    case inl     => simp [system, hg]
    case inr.inl => simp [system, hg, maxEntries_remove, ttl_remove]
    case inr.inr => simp [system, hg, touch]
  case insert a p now => exact ⟨maxEntries_remove, ttl_remove⟩
  case invalidate     => exact ⟨maxEntries_remove, ttl_remove⟩

theorem run_limits (r : Transition.Run system g cache cache') :
    cache'.maxEntries = cache.maxEntries ∧ cache'.ttl = cache.ttl := by
  induction r
  case refl            => exact ⟨rfl, rfl⟩
  case step op _ _ _ h =>
    exact ⟨h.left.trans (limits_of_step op).left, h.right.trans (limits_of_step op).right⟩

theorem ttl_of_get (h : (cache.get a now).1 = some p) :
    ∃ t, cache.entries.lookup a = some ⟨p, t⟩ ∧ now - t ≤ cache.ttl := by
  unfold get at h
  split at h
  case h_1         => cases h
  case h_2 entry he =>
    split at h
    case isTrue     => cases h
    case isFalse ht =>
      cases h
      exact ⟨entry.cachedAt, he, by omega⟩

theorem passportCache_ttl_lru {maxEntries ttlSeconds : Nat}
    (r : Transition.Run system .any (.new maxEntries ttlSeconds) cache) :
    let history := r.fold History.record {}
    (cache.lru.Nodup ∧ (∀ a, a ∈ cache.lru ↔ a ∈ cache.entries) ∧
      cache.lru = Recency.order history.uses cache.entries.keys ∧
      cache.entries.keys.card ≤ maxEntries) ∧
    (∀ a now p, (cache.get a now).1 = some p →
      ∃ t, history.inserted a = some ⟨p, t⟩ ∧ now - t ≤ ttlSeconds * 1000000000) ∧
    (∀ a p now,
      let present := Insert.insert a cache.entries.keys
      let filled b := if b = a then some ⟨p, now⟩ else cache.entries.lookup b
      (present.card ≤ maxEntries → ∀ b, (cache.insert a p now).entries.lookup b = filled b) ∧
      (maxEntries < present.card →
        ∃ oldest, (Recency.order (history.uses ++ [a]) present).head? = some oldest ∧
          ∀ b, (cache.insert a p now).entries.lookup b = if b = oldest then none else filled b)) := by
  intro history
  have t : Tracks history cache := r.invariant_fold (fun t _ _ => t.step _) (.new ..)
  have hm : cache.maxEntries = maxEntries := (run_limits r).left
  have ht : cache.ttl = ttlSeconds * 1000000000 := (run_limits r).right
  refine ⟨⟨?nodup, ?keys, t.order, hm ▸ t.fits⟩, ?hit, ?evicted⟩
  case nodup => exact t.order ▸ Recency.nodup_order _ _
  case keys  =>
    intro a
    rw [t.order, Recency.mem_order, Finmap.mem_keys]
    exact and_iff_right_of_imp <| t.used ∘ Finmap.mem_keys.mpr
  case hit   =>
    intro a now p hg
    obtain ⟨s, he, hs⟩ := ttl_of_get hg
    exact ⟨s, t.entries he, ht ▸ hs⟩
  case evicted =>
    intro a p now present filled
    rcases t.insert_cases a p now with ⟨hc, hi⟩ | ⟨hc, oldest, rest, ho, hi⟩
    case inl =>
      rw [hm] at hc
      refine ⟨fun _ b => ?_, fun hf => absurd hc hf.not_ge⟩
      rw [hi]
      exact lookup_filled
    case inr =>
      rw [hm] at hc
      refine ⟨fun hf => absurd hf hc, fun _ => ⟨oldest, by rw [ho]; rfl, fun b => ?_⟩⟩
      rw [hi, HashMap.lookup_erase, lookup_filled]

end PassportCache

end ScopeEvaluator
