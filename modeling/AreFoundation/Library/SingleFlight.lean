import Mathlib.Data.Set.Basic
import Mathlib.Logic.Function.Basic
import AreFoundation.Library.HashMap

-- A cache where callers that miss the same key at the same time share one request to the source.
namespace SingleFlight

structure Entry (ν : Type*) where
  value : ν
  ts    : Int

inductive Promise (ρ : Type*)
  | pending
  | settled (result : ρ)

-- A caller waits for a value that is known already, or for the request that some caller has made.
inductive Awaited (ι ν : Type*)
  | value (v : ν)
  | promise (flight : ι)

structure Wait (ι ν : Type*) where
  awaited : Awaited ι ν
  since   : Int

structure State (κ ι ν ε : Type*) where
  cache    : HashMap κ (Entry ν) := ∅
  inflight : HashMap κ ι := ∅
  promises : ι → Option (Promise (Except ε ν)) := fun _ => none
  waiting  : ι → Option (Wait ι ν) := fun _ => none

-- An answer of the source, with the times at which it was asked for and at which it arrived.
structure Answer (κ ν ε : Type*) where
  key    : κ
  asked  : Int
  result : Except ε ν
  ts     : Int

-- What a caller gets has either been kept for less than the time to live, or it was being fetched when
-- the caller came. A failure can only be of the second kind.
inductive Answer.Justifies (ttl : Int) (x : Answer κ ν ε) (now : Int) : Except ε ν → Prop
  | cached (h : x.result = .ok v) (ht : now - x.ts < ttl) : Justifies ttl x now (.ok v)
  | shared (h : x.asked ≤ now) (ht : now ≤ x.ts) : Justifies ttl x now x.result

namespace State

section Operations

variable [DecidableEq κ] [DecidableEq ι] (s : State κ ι ν ε)

def wait (i : ι) (awaited : Awaited ι ν) (now : Int) : State κ ι ν ε :=
  { s with waiting := Function.update s.waiting i (some ⟨awaited, now⟩) }

def launch (k : κ) (i : ι) : State κ ι ν ε :=
  { s with
    inflight := s.inflight.insert k i
    promises := Function.update s.promises i (some .pending) }

def fresh? (ttl : Int) (k : κ) (now : Int) : Option ν :=
  match s.cache.lookup k with
  | none   => none
  | some e => if now - e.ts < ttl then some e.value else none

def ask (ttl : Int) (k : κ) (i : ι) (now : Int) : State κ ι ν ε :=
  match s.fresh? ttl k now with
  | some v => s.wait i (.value v) now
  | none   =>
    match s.inflight.lookup k with
    | some j => s.wait i (.promise j) now
    | none   => (s.launch k i).wait i (.promise i) now

-- Failures are not kept.
def settle (k : κ) (i : ι) (result : Except ε ν) (ts : Int) : State κ ι ν ε :=
  { s with
    cache    := match result with
      | .ok v    => s.cache.insert k ⟨v, ts⟩
      | .error _ => s.cache
    inflight := s.inflight.erase k
    promises := Function.update s.promises i (some <| .settled result) }

def resume (i : ι) : State κ ι ν ε :=
  { s with waiting := Function.update s.waiting i none }

end Operations

-- The caller that has made a request waits for it, and knows when it was made.
def arrival (s : State κ ι ν ε) (k : κ) (i : ι) (result : Except ε ν) (ts : Int) :
    Set (Answer κ ν ε) :=
  {x | x.key = k ∧ x.result = result ∧ x.ts = ts ∧ s.waiting i = some ⟨.promise i, x.asked⟩}

section Operations

variable [DecidableEq κ] [DecidableEq ι] {s : State κ ι ν ε}

theorem ask_promises_of_ne (hj : j ≠ i) : (s.ask ttl k i now).promises j = s.promises j := by
  unfold ask
  split
  case h_1 => rfl
  case h_2 =>
    split
    case h_1 => rfl
    case h_2 => exact Function.update_of_ne hj ..

theorem ask_waiting_of_ne (hj : j ≠ i) : (s.ask ttl k i now).waiting j = s.waiting j := by
  unfold ask
  split
  case h_1 => exact Function.update_of_ne hj ..
  case h_2 => split <;> exact Function.update_of_ne hj ..

theorem ask_waiting_self : (s.ask ttl k i now).waiting i ≠ none := by
  unfold ask
  split
  case h_1 => simp [wait]
  case h_2 => split <;> simp [wait]

theorem ask_since (h : (s.ask ttl k i now).waiting i = some w) : w.since = now := by
  unfold ask at h
  split at h
  case h_1 => cases (Function.update_self ..).symm.trans h; rfl
  case h_2 => split at h <;> cases (Function.update_self ..).symm.trans h <;> rfl

theorem settle_promises_of_ne (hj : j ≠ i) :
    (s.settle k i result ts).promises j = s.promises j :=
  Function.update_of_ne hj ..

-- A request is only made if there is none and no recent answer.
theorem ask_launches (hp : s.promises i ≠ some .pending)
    (h : (s.ask ttl k i now).promises i = some .pending) :
    s.fresh? ttl k now = none ∧ s.inflight.lookup k = none := by
  unfold ask at h
  split at h
  case h_1 => exact absurd h hp
  case h_2 hf =>
    split at h
    case h_1    => exact absurd h hp
    case h_2 hn => exact ⟨hf, hn⟩

omit [DecidableEq ι] in
-- The last value that was kept for the key is too old.
theorem fresh?_eq_none (hn : s.fresh? ttl k now = none) (he : s.cache.lookup k = some e) :
    e.ts + ttl ≤ now := by
  simp only [fresh?, he] at hn
  split at hn
  case isTrue  => cases hn
  case isFalse => omega

end Operations

theorem resume_waiting_of_ne [DecidableEq ι] {s : State κ ι ν ε} (hj : j ≠ i) :
    (s.resume i).waiting j = s.waiting j :=
  Function.update_of_ne hj ..

def settled? (s : State κ ι ν ε) (i : ι) : Option (Except ε ν) :=
  match s.promises i with
  | some (.settled result) => some result
  | _                      => none

-- What a caller can go on with.
def result? (s : State κ ι ν ε) (i : ι) : Option (Except ε ν) :=
  match s.waiting i with
  | some ⟨.value v, _⟩   => some (.ok v)
  | some ⟨.promise j, _⟩ => s.settled? j
  | none                 => none

end State

section Flying

-- Requests that are under way are those of the table, and the callers that have made them wait for them.
structure Flying [DecidableEq κ] (key : ι → κ) (s : State κ ι ν ε) : Prop where
  inflight : ∀ {k i}, s.inflight.lookup k = some i ↔ s.promises i = some .pending ∧ key i = k
  own      : ∀ {i}, s.promises i = some .pending → ∃ asked, s.waiting i = some ⟨.promise i, asked⟩

namespace Flying

variable [DecidableEq κ] {key : ι → κ} {s : State κ ι ν ε}

theorem init : Flying key ({} : State κ ι ν ε) where
  inflight := by simp
  own      := nofun

-- There is at most one request for a key at any time.
theorem single (h : Flying key s) (hi : s.promises i = some .pending)
    (hj : s.promises j = some .pending) (hk : key i = key j) : i = j :=
  Option.some.inj <| (h.inflight.mpr ⟨hi, hk⟩).symm.trans (h.inflight.mpr ⟨hj, rfl⟩)

theorem not_pending (h : Flying key s) (hw : s.waiting i = none) : s.promises i ≠ some .pending := by
  intro hp
  obtain ⟨_, ho⟩ := h.own hp
  cases hw.symm.trans ho

variable [DecidableEq ι]

theorem wait (h : Flying key s) (hw : s.waiting i = none) : Flying key (s.wait i awaited now) where
  inflight := h.inflight
  own {j} hp := by
    have hj : j ≠ i := fun hj => h.not_pending hw (hj ▸ hp)
    exact (h.own hp).imp fun _ ho => (Function.update_of_ne hj ..).trans ho

theorem launch (h : Flying key s) (hp : s.promises i = none)
    (hn : s.inflight.lookup (key i) = none) :
    Flying key ((s.launch (key i) i).wait i (.promise i) now) where
  inflight {k j} := by
    simp only [State.wait, State.launch, HashMap.lookup_insert, Function.update_apply]
    split
    case isTrue hk =>
      subst hk
      by_cases hj : j = i
      case pos => simp [hj]
      case neg =>
        simp only [hj, if_false, Option.some.injEq, Ne.symm hj, false_iff]
        intro hj'
        cases hn.symm.trans (h.inflight.mpr hj')
    case isFalse hk =>
      by_cases hj : j = i
      case pos =>
        subst hj
        simp only [if_true, true_and, Ne.symm hk, iff_false]
        intro hl
        cases hp.symm.trans (h.inflight.mp hl).left
      case neg => simp only [hj, if_false]; exact h.inflight
  own {j} hp' := by
    by_cases hj : j = i
    case pos => subst hj; exact ⟨now, Function.update_self ..⟩
    case neg =>
      have hp := (Function.update_of_ne hj ..).symm.trans hp'
      exact (h.own hp).imp fun _ ho => (Function.update_of_ne hj ..).trans ho

theorem ask (h : Flying key s) (hw : s.waiting i = none) (hp : s.promises i = none) :
    Flying key (s.ask ttl (key i) i now) := by
  unfold State.ask
  split
  case h_1 => exact h.wait hw
  case h_2 =>
    split
    case h_1    => exact h.wait hw
    case h_2 hn => exact h.launch hp hn

theorem settle (h : Flying key s) (hp : s.promises i = some .pending) :
    Flying key (s.settle (key i) i result ts) where
  inflight {k j} := by
    have hi : s.inflight.lookup (key i) = some i := h.inflight.mpr ⟨hp, rfl⟩
    simp only [State.settle, HashMap.lookup_erase, Function.update_apply]
    by_cases hj : j = i
    case pos =>
      subst hj
      simp only [if_true, Option.some.injEq, reduceCtorEq, false_and, iff_false]
      split
      case isTrue     => nofun
      case isFalse hk => exact fun hl => hk (h.inflight.mp hl).right.symm
    case neg =>
      simp only [hj, if_false]
      split
      case isFalse   => exact h.inflight
      case isTrue hk =>
        simp only [reduceCtorEq, false_iff]
        exact fun hj' => hj (h.single hj'.left hp (hj'.right.trans hk))
  own {j} hp' := by
    have hj : j ≠ i := by
      rintro rfl
      cases (Function.update_self ..).symm.trans hp'
    exact h.own ((Function.update_of_ne hj ..).symm.trans hp')

theorem resume (h : Flying key s) (hr : s.result? i = some result) : Flying key (s.resume i) where
  inflight := h.inflight
  own {j} hp := by
    obtain ⟨asked, ho⟩ := h.own hp
    have hj : j ≠ i := by
      rintro rfl
      simp [State.result?, ho, State.settled?, show s.promises j = _ from hp] at hr
    exact ⟨asked, (Function.update_of_ne hj ..).trans ho⟩

end Flying

end Flying

section Kept

variable [DecidableEq κ] [DecidableEq ι]

-- Values that arrive are kept.
def kept (k : κ) (ts : Int) : Except ε ν → List (κ × Entry ν)
  | .ok v    => [(k, ⟨v, ts⟩)]
  | .error _ => []

-- Of all the values that have arrived, the cache holds the last one for each key.
def Latest (log : List (κ × Entry ν)) (s : State κ ι ν ε) : Prop :=
  ∀ k, s.cache.lookup k = log.reverse.lookup k

variable {log : List (κ × Entry ν)} {s : State κ ι ν ε}

theorem Latest.ask (h : Latest log s) : Latest log (s.ask ttl k i now) := by
  unfold State.ask
  split
  case h_1 => exact h
  case h_2 => split <;> exact h

theorem Latest.settle (h : Latest log s) : Latest (log ++ kept k ts result) (s.settle k i result ts) := by
  intro k'
  cases result
  case error => simpa [State.settle, kept] using h k'
  case ok v  =>
    simp only [State.settle, kept, HashMap.lookup_insert, List.reverse_append, List.reverse_singleton,
      List.singleton_append, List.lookup_cons, h k']
    by_cases hk : k' = k
    case pos => simp [hk]
    case neg => simp [hk, beq_false_of_ne hk]

end Kept

section Sound

variable (key : ι → κ) (ttl : Int) (A : Set (Answer κ ν ε)) (s : State κ ι ν ε)

def Justified (k : κ) (now : Int) (result : Except ε ν) : Prop :=
  ∃ x ∈ A, x.key = k ∧ x.Justifies ttl now result

-- A request that is under way has been made before.
def Promised (k : κ) (since : Int) (j : ι) : Promise (Except ε ν) → Prop
  | .pending        => ∀ asked, s.waiting j = some ⟨.promise j, asked⟩ → asked ≤ since
  | .settled result => Justified ttl A k since result

def Accounted (k : κ) (w : Wait ι ν) : Prop :=
  match w.awaited with
  | .value v   => Justified ttl A k w.since (.ok v)
  | .promise j => key j = k ∧ ∃ p, s.promises j = some p ∧ Promised ttl A s k w.since j p

structure Sound [DecidableEq κ] : Prop extends Flying key s where
  cached : ∀ {k e}, s.cache.lookup k = some e →
             ∃ x ∈ A, x.key = k ∧ x.result = .ok e.value ∧ x.ts = e.ts
  waits  : ∀ {i w}, s.waiting i = some w → Accounted key ttl A s (key i) w

end Sound

variable {key : ι → κ} {ttl : Int} {A B : Set (Answer κ ν ε)} {s s' : State κ ι ν ε}

theorem Justified.mono (h : Justified ttl A k now result) (hs : A ⊆ B) :
    Justified ttl B k now result :=
  h.imp fun _ h => ⟨hs h.left, h.right⟩

-- Nothing has happened to the request of a caller.
def Frames (s s' : State κ ι ν ε) (j : ι) : Prop :=
  ∀ p, s.promises j = some p → s'.promises j = some p ∧
    (p = .pending → ∀ w, s'.waiting j = some w → s.waiting j = some w)

theorem Accounted.frame (h : Accounted key ttl A s k w) (hs : A ⊆ B)
    (hf : ∀ j, w.awaited = .promise j → Frames s s' j) : Accounted key ttl B s' k w := by
  obtain ⟨awaited, since⟩ := w
  cases awaited
  case value => exact h.mono hs
  case promise j =>
    obtain ⟨hk, p, hp, h⟩ := h
    obtain ⟨hp', hw⟩ := hf j rfl p hp
    refine ⟨hk, p, hp', ?_⟩
    cases p
    case pending => exact fun asked ha => h asked (hw rfl _ ha)
    case settled => exact h.mono hs

namespace Sound

theorem init [DecidableEq κ] : Sound key ttl A {} where
  toFlying := .init
  cached   := by simp
  waits    := nofun

section Reads

variable [DecidableEq κ] (h : Sound key ttl A s)

include h

theorem result_justified (hr : s.result? i = some result) :
    ∃ w, s.waiting i = some w ∧ Justified ttl A (key i) w.since result := by
  unfold State.result? at hr
  split at hr
  case h_1 v since hw => cases hr; exact ⟨_, hw, h.waits hw⟩
  case h_2 j since hw =>
    refine ⟨_, hw, ?_⟩
    obtain ⟨hk, p, hp, ha⟩ := h.waits hw
    unfold State.settled? at hr
    split at hr
    case h_1 result' hs =>
      cases hr
      cases hs.symm.trans hp
      exact ha
    case h_2 => cases hr
  case h_3 => cases hr

theorem fresh_justified (hv : s.fresh? ttl k now = some v) :
    Justified ttl A k now (.ok v) := by
  unfold State.fresh? at hv
  split at hv
  case h_1 => cases hv
  case h_2 e he =>
    split at hv
    case isFalse   => cases hv
    case isTrue ht =>
      cases hv
      obtain ⟨x, hx, hk, hr, hs⟩ := h.cached he
      exact ⟨x, hx, hk, .cached hr (hs ▸ ht)⟩

end Reads

variable [DecidableEq κ] [DecidableEq ι]

theorem wait (h : Sound key ttl A s) (hw : s.waiting i = none)
    (ha : Accounted key ttl A s (key i) ⟨awaited, now⟩) :
    Sound key ttl A (s.wait i awaited now) where
  toFlying := h.toFlying.wait hw
  cached   := h.cached
  waits {j w} hw' := by
    have hf (j : ι) : Frames s (s.wait i awaited now) j := by
      refine fun p hp => ⟨hp, fun he w hw' => ?_⟩
      have hj : j ≠ i := fun hj => h.not_pending hw (hj ▸ he ▸ hp)
      exact (Function.update_of_ne hj ..).symm.trans hw'
    by_cases hj : j = i
    case pos =>
      subst hj
      cases (Function.update_self ..).symm.trans hw'
      exact ha.frame subset_rfl fun j _ => hf j
    case neg =>
      have hw := (Function.update_of_ne hj ..).symm.trans hw'
      exact (h.waits hw).frame subset_rfl fun j _ => hf j

theorem launch (h : Sound key ttl A s) (hp : s.promises i = none)
    (hn : s.inflight.lookup (key i) = none) :
    Sound key ttl A ((s.launch (key i) i).wait i (.promise i) now) where
  toFlying := h.toFlying.launch hp hn
  cached   := h.cached
  waits {j w} hw' := by
    by_cases hj : j = i
    case pos =>
      subst hj
      cases (Function.update_self ..).symm.trans hw'
      refine ⟨rfl, .pending, Function.update_self .., fun asked ha => ?_⟩
      cases (Function.update_self ..).symm.trans ha
      exact le_rfl
    case neg =>
      have hw := (Function.update_of_ne hj ..).symm.trans hw'
      refine (h.waits hw).frame subset_rfl fun j' _ p hp' => ?_
      have hj' : j' ≠ i := fun hj' => by
        subst hj'
        cases hp.symm.trans hp'
      refine ⟨(Function.update_of_ne hj' ..).trans hp', fun _ w hw => ?_⟩
      exact (Function.update_of_ne hj' ..).symm.trans hw

theorem ask (h : Sound key ttl A s) (hw : s.waiting i = none) (hp : s.promises i = none)
    (hc : ∀ j w, s.waiting j = some w → w.since ≤ now) :
    Sound key ttl A (s.ask ttl (key i) i now) := by
  unfold State.ask
  split
  case h_1 v hv => exact h.wait hw (h.fresh_justified hv)
  case h_2 =>
    split
    case h_1 j hj =>
      obtain ⟨hp, hk⟩ := h.inflight.mp hj
      exact h.wait hw ⟨hk, .pending, hp, fun asked ha => hc j _ ha⟩
    case h_2 hn => exact h.launch hp hn

theorem settle (h : Sound key ttl A s) (hp : s.promises i = some .pending)
    (hc : ∀ j w, s.waiting j = some w → w.awaited = .promise i → w.since ≤ ts) :
    Sound key ttl (A ∪ s.arrival (key i) i result ts) (s.settle (key i) i result ts) := by
  obtain ⟨asked, ho⟩ := h.own hp
  have hx : ⟨key i, asked, result, ts⟩ ∈ A ∪ s.arrival (key i) i result ts :=
    .inr ⟨rfl, rfl, rfl, ho⟩
  refine { toFlying := h.toFlying.settle hp, cached := fun {k e} he => ?_, waits := fun {j w} hw => ?_ }
  case refine_1 =>
    have old (he : s.cache.lookup k = some e) : ∃ x ∈ A ∪ s.arrival (key i) i result ts,
        x.key = k ∧ x.result = .ok e.value ∧ x.ts = e.ts :=
      (h.cached he).imp fun _ hx => ⟨.inl hx.left, hx.right⟩
    cases result
    case error => exact old he
    case ok v  =>
      simp only [State.settle, HashMap.lookup_insert] at he
      split at he
      case isFalse   => exact old he
      case isTrue hk => cases he; exact ⟨_, hx, hk.symm, rfl, rfl⟩
  case refine_2 =>
    by_cases hj : w.awaited = .promise i
    case pos =>
      obtain ⟨awaited, since⟩ := w
      cases hj
      obtain ⟨hk, p, hp', ha⟩ := h.waits hw
      cases hp.symm.trans hp'
      refine ⟨hk, .settled result, Function.update_self .., ?_⟩
      exact ⟨_, hx, hk, .shared (ha asked ho) (hc j _ hw rfl)⟩
    case neg =>
      refine (h.waits hw).frame Set.subset_union_left fun j' hj' p hp' => ?_
      have hn : j' ≠ i := fun hn => hj (hn ▸ hj')
      exact ⟨(Function.update_of_ne hn ..).trans hp', fun _ _ => id⟩

theorem resume (h : Sound key ttl A s) (hr : s.result? i = some result) :
    Sound key ttl A (s.resume i) where
  toFlying := h.toFlying.resume hr
  cached   := h.cached
  waits {j w} hw' := by
    have hw {j w} (hw : (s.resume i).waiting j = some w) : s.waiting j = some w := by
      by_cases hj : j = i
      case pos => subst hj; cases (Function.update_self ..).symm.trans hw
      case neg => exact (Function.update_of_ne hj ..).symm.trans hw
    exact (h.waits (hw hw')).frame subset_rfl fun j' _ p hp => ⟨hp, fun _ w hw'' => hw hw''⟩

end Sound

end SingleFlight
