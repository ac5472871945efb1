import AreFoundation.AgentRegistry.Lifecycle

namespace AgentRegistry

namespace UpdateStatus

open Calendar Interleaving

-- The lifecycle permits the change that the call asks for.
def Permitted (r : Registry) (call : UpdateStatusCall) : Prop :=
  ∃ a, r.agents.lookup call.agentId = some a ∧ canTransition a.status (newStatus call) ∧
    a.status.toRaw ≠ newStatus call

-- The agent of the call has the status that the call asks for.
def Reached (r : Registry) (call : UpdateStatusCall) : Prop :=
  ∃ a, r.agents.lookup call.agentId = some a ∧ a.status.toRaw = newStatus call

-- The transaction of a call has changed the status of the agent.
structure Changes (call : UpdateStatusCall) (r : Registry) (prev : AgentStatus) (r' : Registry) :
    Prop where
  permitted : Permitted r call
  previous  : prev.toRaw ≠ newStatus call
  reached   : Reached r' call
  others    : ∀ agentId, agentId ≠ call.agentId → r'.agents.lookup agentId = r.agents.lookup agentId

-- What the steps of a call do.
inductive Effect (call : UpdateStatusCall) (r : Registry) : Pc → Registry → Pc → Prop
  | refused : Effect call r .start r (.returned <| .error err)
  | kept : prev.toRaw = newStatus call → Effect call r .start r (.reading prev)
  | changed : Changes call r prev r' → Effect call r .start r' (.reading prev)
  | found : Effect call r (.reading prev) r (.returned <| .ok a)
  | missed : ¬Reached r call → Effect call r (.reading prev) r (.returned <| .error err)
  | done : Effect call r (.returned result) r (.returned result)

variable {call : UpdateStatusCall} {env : UpdateEnv} {r r' : Registry}

theorem recordStatus_changes (ha : r.agents.lookup call.agentId = some a)
    (hs : status ∈ validTransitions a.status) (hr : status.toRaw = newStatus call) :
    Changes call r a.status (r.recordStatus call.agentId a status reason changedBy now) := by
  have hn : a.status.toRaw ≠ newStatus call :=
    hr ▸ fun h => ne_of_mem_validTransitions hs (AgentStatus.toRaw_injective h).symm
  refine ⟨⟨a, ha, ?_, hn⟩, hn, ⟨_, Finmap.lookup_insert _, hr⟩, fun agentId h => ?_⟩
  case refine_1 => simpa [canTransition] using .inr ⟨status, hs, hr⟩
  case refine_2 => exact Finmap.lookup_insert_of_ne _ h

theorem step_effect (call : UpdateStatusCall) (env : UpdateEnv) (hr : env.read) (r : Registry)
    (pc : Pc) : Effect call r pc (step call env r pc).1 (step call env r pc).2 := by
  cases pc
  case start =>
    simp only [step]
    split
    case isTrue  => exact .refused
    case isFalse =>
      split
      case h_1 h =>
        obtain ⟨rfl, -⟩ | ⟨_, _, -, -, -, h, -⟩ := Registry.updateAgentStatus_cases h
        case inl => exact .refused
        case inr => cases h
      case h_2 h =>
        obtain ⟨rfl, hp⟩ | ⟨a, status, ha, hs, hr, hp, rfl⟩ := Registry.updateAgentStatus_cases h
        case inl => exact .kept <| hp _ rfl
        case inr =>
          cases hp
          exact .changed <| recordStatus_changes ha hs hr
  case reading prev =>
    simp only [step, Registry.get, hr, Bool.not_true, Bool.false_eq_true, if_false]
    cases ha : r.agents.lookup call.agentId
    case none => exact .missed fun ⟨_, h, _⟩ => by cases ha.symm.trans h
    case some a =>
      dsimp only
      split
      case isTrue hs =>
        refine .missed fun ⟨_, h, h'⟩ => hs ?_
        cases ha.symm.trans h
        exact h'
      case isFalse => exact .found
  case returned => exact .done

section Calls

variable [DecidableEq ι] {calls : ι → UpdateStatusCall} {i : ι}
variable {s s₁ s₂ : Interleaving.State ι Registry Pc} {A : Set Registry}

abbrev State.init (r : Registry) : Interleaving.State ι Registry Pc :=
  ⟨r, fun _ => .start⟩

-- The states in which a step of the call has left the database, unless it found it so.
def effects (calls : ι → UpdateStatusCall) (i : ι) (s : Interleaving.State ι Registry Pc)
    (e : ι × Instant) : Set Registry :=
  { r | e.1 = i ∧ r = (s.next (updates calls) e.1 e.2).shared ∧ r ≠ s.shared }

-- No change is made to an agent between another change and the query that follows it.
def Apart (calls : ι → UpdateStatusCall) : Guard ι Registry Pc Instant := fun s e =>
  s.locals e.1 = .start → Permitted s.shared (calls e.1) →
    ∀ j, j ≠ e.1 → (calls j).agentId = (calls e.1).agentId →
      ∀ prev, s.locals j = .reading prev → prev.toRaw = newStatus (calls j)

-- A call that has changed something finds its change until it returns.
def Accounted (call : UpdateStatusCall) (A : Set Registry) (r : Registry) : Pc → Prop
  | .start           => A = ∅
  | .reading prev    => A = ∅ ∨ (prev.toRaw ≠ newStatus call ∧ Reached r call)
  | .returned result => ∀ err, result = .error err → A = ∅

theorem effects_of_shared_eq (h : (s.next (updates calls) i now).shared = s.shared) :
    effects calls j s (i, now) = ∅ := by
  simp [effects, h, -State.next_shared]

theorem effects_of_ne (h : i ≠ j) : effects calls j s (i, now) = ∅ := by
  simp [effects, h]

theorem Accounted.own (h : Accounted (calls i) A s.shared (s.locals i)) (now : Instant) :
    Accounted (calls i) (A ∪ effects calls i s (i, now)) (s.next (updates calls) i now).shared
      ((s.next (updates calls) i now).locals i) := by
  have he := step_effect (calls i) ⟨now, true, true⟩ rfl s.shared (s.locals i)
  have hk (hs : (s.next (updates calls) i now).shared = s.shared) : effects calls i s (i, now) = ∅ :=
    effects_of_shared_eq hs
  have hs : (s.next (updates calls) i now).shared =
      (step (calls i) ⟨now, true, true⟩ s.shared (s.locals i)).1 := rfl
  have hl : (s.next (updates calls) i now).locals i =
      (step (calls i) ⟨now, true, true⟩ s.shared (s.locals i)).2 := State.next_locals_self ..
  rw [← hs, ← hl] at he
  generalize (s.next (updates calls) i now).shared = r', effects calls i s (i, now) = E,
    (s.next (updates calls) i now).locals i = pc', s.locals i = pc at h he hk ⊢
  cases he
  case refused   => exact fun _ _ => by rw [hk rfl, Set.union_empty]; exact h
  case kept      => exact .inl <| by rw [hk rfl, Set.union_empty]; exact h
  case changed h => exact .inr ⟨h.previous, h.reached⟩
  case found     => exact nofun
  case missed hn =>
    rw [hk rfl, Set.union_empty]
    exact fun _ _ => h.resolve_right fun h => hn h.right
  case done => rw [hk rfl, Set.union_empty]; exact h

theorem Accounted.other (h : Accounted (calls i) A s.shared (s.locals i)) (hj : j ≠ i)
    (c : Apart calls s (j, now)) :
    Accounted (calls i) A (s.next (updates calls) j now).shared (s.locals i) := by
  have he := step_effect (calls j) ⟨now, true, true⟩ rfl s.shared (s.locals j)
  have hs : (s.next (updates calls) j now).shared =
      (step (calls j) ⟨now, true, true⟩ s.shared (s.locals j)).1 := rfl
  rw [← hs] at he
  generalize hp : (step (calls j) ⟨now, true, true⟩ s.shared (s.locals j)).2 = pc' at he
  generalize (s.next (updates calls) j now).shared = r' at he ⊢
  generalize hl : s.locals j = pc at he
  cases he
  case changed hc =>
    cases hi : s.locals i
    all_goals rw [hi] at h
    case start    => exact h
    case returned => exact h
    case reading prev =>
      refine h.imp_right fun ⟨hn, a, ha, hr⟩ => ⟨hn, a, ?_, hr⟩
      have hd : (calls i).agentId ≠ (calls j).agentId :=
        fun hd => hn <| c hl hc.permitted i (Ne.symm hj) hd prev hi
      rw [hc.others _ hd, ha]
  all_goals exact h

theorem run_accounted (run : Interleaving.Run (updates calls) (Apart calls) (State.init r) s)
    (i : ι) :
    Accounted (calls i) (run.collect (effects calls i)) s.shared (s.locals i) := by
  let P (A : Set Registry) (s : Interleaving.State ι Registry Pc) : Prop :=
    Accounted (calls i) A s.shared (s.locals i)
  have hi : P ∅ (State.init r) := rfl
  refine run.invariant_fold (P := P) ?_ hi
  intro A s ⟨j, now⟩ h _ c
  by_cases hj : j = i
  case pos =>
    subst hj
    exact h.own now
  case neg =>
    rw [effects_of_ne hj, Set.union_empty]
    simpa only [P, System.interleaved, State.next_locals_of_ne s now (Ne.symm hj)]
      using h.other hj c

theorem run_error_no_effect
    (run : Interleaving.Run (updates calls) (Apart calls) (State.init r) s)
    (h : s.locals i = .returned (.error err)) : run.collect (effects calls i) = ∅ := by
  have ha := run_accounted run i
  rw [h] at ha
  exact ha err rfl

end Calls

namespace Sample

def pending : Registry :=
  Registry.registerWithAdmission {} "system" "owner-1" "" {} none ⟨0, "agent-1", "env-1", true⟩ |>.2

-- One call activates the agent, the other one suspends it.
def calls (activates : Bool) : UpdateStatusCall :=
  ⟨"agent-1", if activates then "active" else "suspended", "review", "ops"⟩

def overtaken : List (Bool × Instant) :=
  [(true, 1), (false, 2), (true, 3)]

abbrev overtakenState : Interleaving.State Bool Registry Pc :=
  Transition.exec (updates calls).interleaved (State.init pending) overtaken

-- The suspension commits between the activation and the query that follows it.
theorem overtaken_update_rejected :
    overtakenState.locals true = .returned (.error <| .failedPrecondition <|
      "agent status after update is " ++ Go.quote "SUSPENDED" ++ ", expected " ++ Go.quote "ACTIVE" ++
        " (previous_status=" ++ Go.quote "PENDING" ++ ")") ∧
    ⟨"agent-1", some .pending, .active, "review", "ops"⟩ ∈ overtakenState.shared.statusHistory ∧
    ∃ run : Interleaving.Run (updates calls) .any (State.init pending) overtakenState,
      (run.collect (effects calls true)).Nonempty := by
  have ha : Transition.Admissible (updates calls).interleaved .any (State.init pending) overtaken :=
    ⟨trivial, trivial, trivial, trivial, trivial, trivial, trivial⟩
  refine ⟨rfl, by decide +kernel, .ofSchedule overtaken ha, ?_⟩
  rw [Transition.Run.collect, Transition.Run.fold_ofSchedule]
  refine ⟨_, .inl <| .inl <| .inr ⟨rfl, rfl, fun h => ?_⟩⟩
  have hl := congrArg (·.statusHistory.length) h
  revert hl
  decide +kernel

def inTurn : List (Bool × Instant) :=
  [(false, 1), (true, 2), (true, 3)]

abbrev inTurnState : Interleaving.State Bool Registry Pc :=
  Transition.exec (updates calls).interleaved (State.init pending) inTurn

-- The agent is activated after its suspension has been refused.
theorem refused_suspension_no_effect :
    ∃ err agent, inTurnState.locals false = .returned (.error err) ∧
      inTurnState.locals true = .returned (.ok agent) ∧ agent.status = .active ∧
      ∃ run : Interleaving.Run (updates calls) (Apart calls) (State.init pending) inTurnState,
        run.collect (effects calls false) = ∅ := by
  have first : Apart calls (State.init pending) (false, 1) := fun _ _ _ _ _ _ => nofun
  have second : Apart calls ((State.init pending).next (updates calls) false 1) (true, 2) := by
    intro _ _ j hj _ prev h
    cases j
    case false => cases h
    case true  => exact absurd rfl hj
  have third : Apart calls
      (((State.init pending).next (updates calls) false 1).next (updates calls) true 2) (true, 3) :=
    nofun
  let run : Interleaving.Run (updates calls) (Apart calls) (State.init pending) inTurnState :=
    .ofSchedule inTurn ⟨trivial, first, trivial, second, trivial, third, trivial⟩
  exact ⟨_, _, rfl, rfl, by decide +kernel, run, run_error_no_effect run rfl⟩

end Sample

end UpdateStatus

end AgentRegistry
