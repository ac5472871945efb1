import AreFoundation.OpaIntegration.Admission
import AreFoundation.OpaIntegration.Theorems.Transparency

open SingleFlight

namespace OpaIntegration.Admission

-- The clock does not go back while a call waits.
def Clock : Transition.Guard (State ι) (Event ι)
  | s, .evaluate _ now | s, .answer _ _ now => ∀ j w, s.admission.waiting j = some w → w.since ≤ now
  | _, _                                    => True

section Finish

variable [Sha256] [DecidableEq ι] {requests : ι → EvaluateRequest} {evaluator : Evaluator}
variable {s : State ι}

theorem finish_returned_self : (finish requests evaluator s i now fetched).returned i =
    some (s.service.evaluate (requests i) now fetched evaluator).1 :=
  Function.update_self ..

theorem finish_returned_of_ne (hj : j ≠ i) :
    (finish requests evaluator s i now fetched).returned j = s.returned j :=
  Function.update_of_ne hj ..

theorem finish_returned_ne_none (hr : s.returned j ≠ none) :
    (finish requests evaluator s i now fetched).returned j ≠ none := by
  by_cases hj : j = i
  case pos => subst hj; simp [finish_returned_self]
  case neg => rwa [finish_returned_of_ne hj]

end Finish

section Answers

variable (requests : ι → EvaluateRequest) (options : OpaIntegrationServiceOptions)

abbrev Answers := Set (Answer String (Option AdmissionEnvelope) String)

-- What the client has answered.
def answers (s : State ι) : Event ι → Answers
  | .answer i result now => s.admission.arrival (requests i).agentId i result now
  | _                    => ∅

variable (evaluator : Evaluator)

-- An envelope that is used has been fetched for the same agent, either recently or meanwhile.
def Justified (A : Answers) : Op → Prop
  | .evaluate request now fetched evaluator' =>
    evaluator' = evaluator ∧
      if request.Awaits options then
        SingleFlight.Justified options.ttlMs A request.agentId now fetched
      else
        fetched = .ok none
  | _ => True

theorem Justified.mono {options : OpaIntegrationServiceOptions} {evaluator : Evaluator}
    {A B : Answers} {op : Op} (h : Justified options evaluator A op) (hs : A ⊆ B) :
    Justified options evaluator B op := by
  cases op
  case evaluate =>
    simp only [Justified] at h ⊢
    refine ⟨h.left, ?_⟩
    split
    case isTrue ha  => rw [if_pos ha] at h; exact h.right.mono hs
    case isFalse ha => rw [if_neg ha] at h; exact h.right
  all_goals trivial

end Answers

-- A call that has made a request waits or has returned.
def Begun (s : State ι) : Prop :=
  ∀ i, s.admission.promises i ≠ none → s.admission.waiting i ≠ none ∨ s.returned i ≠ none

-- A call that has not begun has made no request.
theorem Begun.promises_eq_none {s : State ι} (h : Begun s) (hr : s.returned i = none)
    (hw : s.admission.waiting i = none) : s.admission.promises i = none := by
  by_contra hp
  exact (h i hp).elim (· hw) (· hr)

abbrev agentOf (requests : ι → EvaluateRequest) (i : ι) : String :=
  (requests i).agentId

section Run

variable [Sha256] [Ed25519] [DecidableEq ι] {requests : ι → EvaluateRequest}
variable {options : OpaIntegrationServiceOptions} {evaluator : Evaluator}
variable {A : Answers} {s : State ι}

theorem Begun.step (h : Begun s) (ha : Allows s e) : Begun (step requests options evaluator s e) := by
  intro j
  cases e
  case evaluate i now =>
    simp only [Admission.step]
    split
    case isFalse => exact fun hp => (h j hp).imp_right finish_returned_ne_none
    case isTrue  =>
      by_cases hj : j = i
      case pos => subst hj; exact fun _ => .inl State.ask_waiting_self
      case neg =>
        simp only [resolveAdmissionEnvelope, State.ask_promises_of_ne hj, State.ask_waiting_of_ne hj]
        exact h j
  case answer i result now =>
    by_cases hj : j = i
    case pos => subst hj; exact fun _ => h j (by simp [show s.admission.promises j = _ from ha])
    case neg =>
      simp only [Admission.step, State.settle_promises_of_ne hj]
      exact h j
  case resume i =>
    simp only [Admission.step]
    split
    case h_2 => exact h j
    case h_1 =>
      intro hp
      by_cases hj : j = i
      case pos => subst hj; exact .inr (by simp [finish_returned_self])
      case neg =>
        refine (h j hp).imp (fun hw => ?_) finish_returned_ne_none
        exact (State.resume_waiting_of_ne hj).symm ▸ hw
  case other => exact h j

-- Only calls that need an envelope wait.
theorem awaits_of_step (h : ∀ j, s.admission.waiting j ≠ none → (requests j).Awaits options)
    (hw : (step requests options evaluator s e).admission.waiting j ≠ none) :
    (requests j).Awaits options := by
  cases e
  case evaluate i now =>
    simp only [Admission.step] at hw
    split at hw
    case isFalse   => exact h j hw
    case isTrue ha =>
      by_cases hj : j = i
      case pos => exact hj ▸ ha
      case neg =>
        rw [resolveAdmissionEnvelope, State.ask_waiting_of_ne hj] at hw
        exact h j hw
  case resume i =>
    simp only [Admission.step] at hw
    split at hw
    case h_2 => exact h j hw
    case h_1 =>
      by_cases hj : j = i
      case pos => subst hj; exact absurd (Function.update_self ..) hw
      case neg => exact h j (State.resume_waiting_of_ne hj ▸ hw)
  all_goals exact h j hw

-- A call that has returned does not wait.
theorem waits_of_step (h : ∀ j, s.admission.waiting j ≠ none → s.returned j = none) (ha : Allows s e)
    (hw : (step requests options evaluator s e).admission.waiting j ≠ none) :
    (step requests options evaluator s e).returned j = none := by
  cases e
  case evaluate i now =>
    simp only [Admission.step] at hw ⊢
    split at hw
    case isTrue ht =>
      rw [if_pos ht]
      by_cases hj : j = i
      case pos => exact hj ▸ ha.left
      case neg =>
        rw [resolveAdmissionEnvelope, State.ask_waiting_of_ne hj] at hw
        exact h j hw
    case isFalse ht =>
      have hj : j ≠ i := fun hj => hw (hj ▸ ha.right)
      rw [if_neg ht, finish_returned_of_ne hj]
      exact h j hw
  case resume i =>
    simp only [Admission.step] at hw ⊢
    split at hw
    case h_2 => exact h j hw
    case h_1 =>
      have hj : j ≠ i := fun hj => hw (hj ▸ Function.update_self ..)
      rw [finish_returned_of_ne hj]
      exact h j (State.resume_waiting_of_ne hj ▸ hw)
  all_goals exact h j hw

-- What is known in every state of a run, whatever the clock does.
structure Orderly (requests : ι → EvaluateRequest) (options : OpaIntegrationServiceOptions)
    (s : State ι) : Prop where
  begun  : Begun s
  awaits : ∀ i, s.admission.waiting i ≠ none → (requests i).Awaits options
  waits  : ∀ i, s.admission.waiting i ≠ none → s.returned i = none
  flying : Flying (agentOf requests) s.admission

namespace Orderly

omit [DecidableEq ι] [Sha256] [Ed25519] in
theorem init : Orderly requests options { service := svc } where
  begun _  := nofun
  awaits _ := nofun
  waits _  := nofun
  flying   := .init

theorem step (h : Orderly requests options s) (ha : Allows s e) :
    Orderly requests options (step requests options evaluator s e) := by
  refine ⟨h.begun.step ha, fun j => awaits_of_step h.awaits, fun j => waits_of_step h.waits ha, ?_⟩
  cases e
  case evaluate i now =>
    simp only [Admission.step]
    split
    case isTrue  => exact h.flying.ask ha.right (h.begun.promises_eq_none ha.left ha.right)
    case isFalse => exact h.flying
  case answer => exact h.flying.settle ha
  case resume i =>
    simp only [Admission.step]
    split
    case h_1 hf => exact h.flying.resume hf
    case h_2    => exact h.flying
  case other => exact h.flying

end Orderly

section SingleFlight

variable (requests) in
-- The envelopes that have arrived, with their times.
def arrivals (_ : State ι) : Event ι → List (String × Entry (Option AdmissionEnvelope))
  | .answer i result now => kept (requests i).agentId now result
  | _                    => []

theorem latest_step {log : List (String × Entry (Option AdmissionEnvelope))}
    (h : Latest log s.admission) :
    Latest (log ++ arrivals requests s e) (step requests options evaluator s e).admission := by
  cases e
  case answer => exact h.settle
  all_goals simp only [arrivals, List.append_nil, Admission.step]
  case evaluate => split; exacts [h.ask, h]
  case resume   => split <;> exact h
  case other    => exact h

-- There is never more than one request for an agent. Another one is only made when none is under way
-- and the last envelope has been kept for its time.
theorem run_admission_single_flight {g : Transition.Guard (State ι) (Event ι)}
    (r : Transition.Run (system requests options evaluator) g { service := svc } s) :
    (∀ i j, s.admission.promises i = some .pending → s.admission.promises j = some .pending →
      (requests i).agentId = (requests j).agentId → i = j) ∧
    ∀ i now, Allows s (.evaluate i now) →
      (step requests options evaluator s (.evaluate i now)).admission.promises i = some .pending →
      (∀ j, (requests j).agentId = (requests i).agentId → s.admission.promises j ≠ some .pending) ∧
      ∀ last, (r.log (arrivals requests)).reverse.lookup (requests i).agentId = some last →
        last.ts + options.ttlMs ≤ now := by
  have ⟨h, hl⟩ := r.invariant_fold
    (P := fun log s => Orderly requests options s ∧ Latest log s.admission)
    (fun h a _ => ⟨h.left.step a, latest_step h.right⟩) (a := []) ⟨.init, fun _ => rfl⟩
  refine ⟨fun i j hi hj => h.flying.single hi hj, fun i now ha hp => ?_⟩
  have hi := h.flying.not_pending ha.right
  simp only [Admission.step] at hp
  split at hp
  case isFalse => exact absurd hp hi
  case isTrue  =>
    obtain ⟨hf, hn⟩ := State.ask_launches hi hp
    refine ⟨fun j hk hj => ?_, fun last he => State.fresh?_eq_none hf ((hl _).trans he)⟩
    cases hn.symm.trans (h.flying.inflight.mpr ⟨hj, hk⟩)

end SingleFlight

-- With the clock, it is also known where the envelopes come from.
structure Invariant (requests : ι → EvaluateRequest) (options : OpaIntegrationServiceOptions)
    (A : Answers) (s : State ι) : Prop extends Orderly requests options s where
  sound : Sound (agentOf requests) options.ttlMs A s.admission

namespace Invariant

omit [DecidableEq ι] [Sha256] [Ed25519] in
theorem init : Invariant requests options ∅ { service := svc } where
  toOrderly := .init
  sound     := .init

theorem step (h : Invariant requests options A s) (ha : Allows s e) (hc : Clock s e) :
    Invariant requests options (A ∪ answers requests s e) (step requests options evaluator s e) := by
  refine ⟨h.toOrderly.step ha, ?_⟩
  cases e
  case evaluate i now =>
    simp only [answers, Set.union_empty, Admission.step]
    split
    case isTrue  => exact h.sound.ask ha.right (h.begun.promises_eq_none ha.left ha.right) hc
    case isFalse => exact h.sound
  case answer i result now => exact h.sound.settle ha fun j w hw _ => hc j w hw
  case resume i =>
    simp only [answers, Set.union_empty, Admission.step]
    split
    case h_1 w fetched _ hf => exact h.sound.resume hf
    case h_2                => exact h.sound
  case other => exact (Set.union_empty A).symm ▸ h.sound

end Invariant

section Explained

-- An evaluation that returns, or another operation.
inductive Effect (κ : Type*)
  | evaluated (call : κ) (result : Except String EvaluateResponse)
  | other (op : Op)

namespace Effect

def call? : Effect κ → Option κ
  | evaluated call _ => some call
  | other _          => none

def map (f : κ → κ') : Effect κ → Effect κ'
  | evaluated call result => evaluated (f call) result
  | other op              => other op

end Effect

abbrev JustifiedRun (options : OpaIntegrationServiceOptions) (evaluator : Evaluator) (A : Answers)
    (svc svc' : OpaIntegrationService) :=
  OpaIntegrationService.Run (fun _ op => Justified options evaluator A op) svc svc'

def performed (svc : OpaIntegrationService) : Op → List (Effect EvaluateRequest)
  | .evaluate request now fetched evaluator =>
    [.evaluated request (svc.evaluate request now fetched evaluator).1]
  | op => [.other op]

variable (requests options evaluator) in
def effects (s : State ι) (e : Event ι) : List (Effect ι) :=
  match e with
  | .evaluate i _ | .resume i =>
    ((step requests options evaluator s e).returned i).toList.map (.evaluated i)
  | .answer .. => []
  | .other op  => [.other op]

variable (requests options evaluator) in
-- The calls could have been made one after the other, each at the moment when it returns.
structure Explained (svc : OpaIntegrationService) (A : Answers) (effects : List (Effect ι))
    (s : State ι) : Prop where
  nodup      : (effects.filterMap (·.call?)).Nodup
  returned   : ∀ i result, .evaluated i result ∈ effects ↔ s.returned i = some result
  sequential : ∃ r : JustifiedRun options evaluator A svc s.service,
                 r.log performed = effects.map (.map requests)

namespace Explained

variable {effects : List (Effect ι)}

omit [DecidableEq ι] in
theorem init : Explained requests options evaluator svc ∅ [] { service := svc } where
  nodup        := .nil
  returned _ _ := by simp
  sequential   := ⟨.refl, rfl⟩

omit [DecidableEq ι] in
theorem mono (h : Explained requests options evaluator svc A effects s) (hs : A ⊆ B) :
    Explained requests options evaluator svc B effects s where
  nodup      := h.nodup
  returned   := h.returned
  sequential := by
    obtain ⟨r, hr⟩ := h.sequential
    refine ⟨r.weaken (·.mono hs), ?_⟩
    rw [Transition.Run.log, Transition.Run.fold_weaken]
    exact hr

omit [DecidableEq ι] in
-- One more operation of the service.
theorem performs (h : Explained requests options evaluator svc A effects s) (op : Op)
    (hj : Justified options evaluator A op) (he : performed s.service op = [effect.map requests]) :
    ∃ r : JustifiedRun options evaluator A svc (s.service.step op),
      r.log performed = (effects ++ [effect]).map (.map requests) := by
  obtain ⟨r, hr⟩ := h.sequential
  refine ⟨r.concat op trivial hj, Transition.Run.log_concat.trans ?_⟩
  rw [hr, he, List.map_append]
  rfl

omit [DecidableEq ι] in
theorem other {op : Op} (h : Explained requests options evaluator svc A effects s)
    (ho : ¬IsEvaluate op) :
    Explained requests options evaluator svc A (effects ++ [.other op])
      { s with service := s.service.step op } where
  nodup        := by simpa [Effect.call?] using h.nodup
  returned i v := by simpa using h.returned i v
  sequential   := by
    refine h.performs op ?_ ?_
    all_goals cases op
    case refine_1.evaluate | refine_2.evaluate => exact absurd trivial ho
    all_goals trivial

theorem finish (h : Explained requests options evaluator svc A effects s) (hn : s.returned i = none)
    (hj : Justified options evaluator A (.evaluate (requests i) now fetched evaluator)) :
    Explained requests options evaluator svc A
      (effects ++ [.evaluated i (s.service.evaluate (requests i) now fetched evaluator).1])
      (finish requests evaluator s i now fetched) where
  nodup := by
    have hi : ∀ result, .evaluated i result ∉ effects := by simp [h.returned, hn]
    refine List.filterMap_append .. ▸ h.nodup.append (List.nodup_singleton i) ?_
    intro j hj hs
    cases List.mem_singleton.mp hs
    obtain ⟨effect, hm, he⟩ := List.mem_filterMap.mp hj
    cases effect
    case evaluated result => cases he; exact hi result hm
    case other            => cases he
  returned j v := by
    by_cases hij : j = i
    case pos =>
      subst hij
      simp [h.returned, hn, finish_returned_self, eq_comm]
    case neg => simp [h.returned, finish_returned_of_ne hij, hij]
  sequential := h.performs _ hj rfl

theorem step (h : Explained requests options evaluator svc A effects s)
    (hi : Invariant requests options A s) (ha : Allows s e) :
    Explained requests options evaluator svc (A ∪ answers requests s e)
      (effects ++ Admission.effects requests options evaluator s e)
      (step requests options evaluator s e) := by
  cases e
  case evaluate i now =>
    simp only [answers, Set.union_empty, Admission.effects, Admission.step]
    split
    case isTrue =>
      simp only [ha.left, Option.toList_none, List.map_nil, List.append_nil]
      exact ⟨h.nodup, h.returned, h.sequential⟩
    case isFalse hn =>
      rw [finish_returned_self]
      exact h.finish ha.left ⟨rfl, by rw [if_neg hn]⟩
  case answer i result now =>
    have h := h.mono <| Set.subset_union_left (t := answers requests s (.answer i result now))
    simp only [Admission.effects, List.append_nil]
    exact ⟨h.nodup, h.returned, h.sequential⟩
  case resume i =>
    simp only [answers, Set.union_empty, Admission.effects, Admission.step]
    obtain ⟨fetched, hf⟩ := Option.isSome_iff_exists.mp ha
    obtain ⟨w, hw, hj⟩ := hi.sound.result_justified hf
    have hs : s.admission.waiting i ≠ none := by simp [hw]
    have he : Explained requests options evaluator svc A effects
        { s with admission := s.admission.resume i } := ⟨h.nodup, h.returned, h.sequential⟩
    simp only [hw, hf, finish_returned_self]
    exact he.finish (hi.waits i hs) ⟨rfl, by rwa [if_pos (hi.awaits i hs)]⟩
  case other op =>
    simp only [answers, Set.union_empty, Admission.effects, Admission.step]
    exact h.other ha

end Explained

-- However the calls are interleaved, they behave as if they were made one after the other, and each of
-- them had been given an envelope that the client returned for its agent.
theorem run_admission_explained
    (r : Transition.Run (system requests options evaluator) Clock { service := svc } s) :
    Explained requests options evaluator svc (r.collect (answers requests))
      (r.log (effects requests options evaluator)) s := by
  have h := r.invariant_fold₂
    (P := fun A effects s => Invariant requests options A s ∧
      Explained requests options evaluator svc A effects s)
    (fun h a c => ⟨h.left.step a c, h.right.step h.left a⟩) ⟨.init, .init⟩
  exact h.right

end Explained

end Run

namespace Sample

open OpaIntegration.Sample
open scoped Sha256.Standard

def requests (second : Bool) : EvaluateRequest :=
  request (if second then "b" else "a") "passport-1"

def fetching : List (Event Bool) :=
  [.evaluate false 0, .answer false (.ok none) 5]

abbrev client : OpaIntegrationServiceOptions :=
  { admissionEnvelopeClient := true }

abbrev fetched : State Bool :=
  Transition.exec (system requests client defaultEvaluator) { service := .new 30 10000 } fetching

def fetchedRun : Transition.Run (system requests client defaultEvaluator) Clock
    { service := .new 30 10000 } fetched := by
  refine .ofSchedule fetching ⟨⟨rfl, rfl⟩, nofun, rfl, ?_, trivial⟩
  rintro (_ | _) w hw
  case false => cases hw; decide
  case true  => cases hw

-- The second call comes more than thirty seconds later.
theorem fetched_again :
    (step requests client defaultEvaluator fetched (.evaluate true 30005)).admission.promises true =
      some .pending ∧
    ∀ last, (fetchedRun.log (arrivals requests)).reverse.lookup "agent-1" = some last →
      last.ts + 30000 ≤ 30005 := by
  refine ⟨rfl, ?_⟩
  exact (run_admission_single_flight fetchedRun).right true 30005 ⟨rfl, rfl⟩ rfl |>.right

end Sample

end OpaIntegration.Admission
