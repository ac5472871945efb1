import AreFoundation.Library.Linearization
import AreFoundation.RestBff.Theorems.Statements

-- Calls of the two functions with any keys and bodies, where nothing is known about the rows that exist.
open Interleaving ReadCommitted Linearization

namespace RestBff.Transactions

-- What a call has returned, as a result of the repository.
def Pc.result : Pc → Option (Except RepoError Json)
  | .returned (.ok body)              => some <| .ok body
  | .returned (.error .agentNotFound) => some <| .error .agentNotFound
  | .returned (.error (.race _))      => some <| .error .storage
  | _                                 => none

-- A call as one operation on the tables.
def Call.outcome (t : Tables) (call : Call) : Except RepoError Json × Tables :=
  match call.select t with
  | some cached => (.ok cached, t)
  | none        =>
    if call.part = .passport ∧ ¬t.contains (.agent call.agentId) then
      (.error .agentNotFound, t)
    else
      (.ok call.responseBody,
        (call.statements.flatMap fun st => (st.execute t).getD []).foldl Tables.apply t)

def tables (p : Postgres) : Tables where
  agents       := p.agents.rows
  registerIdem := p.registerIdem.rows
  passportIdem := p.passportIdem.rows
  passports    := p.passports.rows

-- The call as an operation of the repository.
def Call.alone (p : Postgres) : Call → Except RepoError Json × Postgres
  | finishRegister idemKey agentId responseBody record =>
    Prod.map .ok id (p.finishRegister idemKey agentId responseBody record)
  | finishPassport idemKey agentId responseBody        =>
    p.finishPassport idemKey agentId responseBody

section Outcome

variable {call : Call} {t : Tables} {p : Postgres}

theorem Call.outcome_of_some (h : call.select t = some cached) : call.outcome t = (.ok cached, t) := by
  simp only [outcome, h]

theorem Call.outcome_of_unknown (h : call.select t = none) (hp : call.part = .passport)
    (ha : ¬t.contains (.agent call.agentId)) : call.outcome t = (.error .agentNotFound, t) := by
  simp only [outcome, h, if_pos (And.intro hp ha)]

theorem Call.outcome_of_none (h : call.select t = none)
    (ha : call.part = .passport → t.contains (.agent call.agentId)) :
    call.outcome t = (.ok call.responseBody,
      (call.statements.flatMap fun st => (st.execute t).getD []).foldl Tables.apply t) := by
  have hn : ¬(call.part = .passport ∧ ¬t.contains (.agent call.agentId)) :=
    fun h => h.right (ha h.left)
  simp only [outcome, h, if_neg hn]

-- What the statements that tolerate a conflict do to their table.
theorem foldl_insertAgent (row : AgentRow) (h : t.agents = p.agents.rows) :
    (((Statement.insertOrIgnore (.insertAgent row)).execute (tables p)).getD []).foldl Tables.apply t =
      { t with agents := (p.agents.insertOrIgnore row).rows } := by
  rw [Table.Keyed.rows_insertOrIgnore, ← h]
  have hc : (tables p).contains (Statement.insertOrIgnore (.insertAgent row)).key =
      t.agents.any (·.agentId = row.agentId) := by
    rw [h]; rfl
  by_cases ha : t.agents.any (·.agentId = row.agentId)
  case pos =>
    rw [if_pos ha, Statement.execute, if_pos (hc.trans ha)]
    rfl
  case neg =>
    rw [if_neg ha, Statement.execute_of_not_contains (fun h => ha (hc.symm.trans h))]
    rfl

theorem foldl_insertPassport (row : PassportRow) (h : t.passports = p.passports.rows) :
    (((Statement.insertOrUpdate (.insertPassport row)
      (.updatePassport row.passportId row.responseBody)).execute (tables p)).getD []).foldl
        Tables.apply t =
      { t with
        passports := (p.passports.insertOrUpdate row ({ · with responseBody := row.responseBody })
          fun _ => rfl).rows } := by
  rw [Table.Keyed.rows_insertOrUpdate, ← h]
  have hc : (tables p).contains (Statement.insertOrUpdate (.insertPassport row)
      (.updatePassport row.passportId row.responseBody)).key =
        t.passports.any (·.passportId = row.passportId) := by
    rw [h]; rfl
  by_cases ha : t.passports.any (·.passportId = row.passportId)
  case pos =>
    rw [if_pos ha, Statement.execute, if_pos (hc.trans ha)]
    rfl
  case neg =>
    rw [if_neg ha, Statement.execute_of_not_contains (fun h => ha (hc.symm.trans h))]
    rfl

theorem Call.outcome_finishRegister (p : Postgres) (key a : String) (body : Json) (record : AgentRec) :
    (finishRegister key a body record).outcome (tables p) =
      ((finishRegister key a body record).alone p).map id tables := by
  cases hs : (finishRegister key a body record).select (tables p)
  case some cached =>
    rw [outcome_of_some hs, alone, Postgres.finishRegister_of_some hs]
    rfl
  case none =>
    have hi := select_eq_none_iff.mp hs
    have hr : (Statement.insert (.insertRegisterIdem ⟨key, body⟩)).execute (tables p) =
        some [.insertRegisterIdem ⟨key, body⟩] := Statement.execute_of_not_contains hi
    rw [outcome_of_none hs nofun, alone,
      Postgres.finishRegister_of_none (Table.Keyed.select_eq_none_iff.mpr hi)]
    simp only [statements, List.flatMap_cons, List.flatMap_nil, List.append_nil, List.foldl_append, hr,
      Option.getD_some]
    rw [foldl_insertAgent _ rfl]
    rfl

theorem Call.outcome_finishPassport (p : Postgres) (key a : String) (body : Json) :
    (finishPassport key a body).outcome (tables p) =
      ((finishPassport key a body).alone p).map id tables := by
  cases hs : (finishPassport key a body).select (tables p)
  case some cached =>
    rw [outcome_of_some hs, alone, Postgres.finishPassport_of_some hs]
    rfl
  case none =>
    have hi := select_eq_none_iff.mp hs
    have hn : p.passportIdem.select key = none := Table.Keyed.select_eq_none_iff.mpr hi
    have hr : (Statement.insert (.insertPassportIdem ⟨key, body⟩)).execute (tables p) =
        some [.insertPassportIdem ⟨key, body⟩] := Statement.execute_of_not_contains hi
    by_cases ha : (tables p).contains (.agent a)
    case neg =>
      rw [outcome_of_unknown hs rfl ha, alone,
        Postgres.finishPassport_of_unknown hn (Table.Keyed.select_eq_none_iff.mpr ha)]
      rfl
    case pos =>
      obtain ⟨row, ha'⟩ : ∃ row, p.agents.select a = some row :=
        Option.isSome_iff_exists.mp <| Table.Keyed.select_isSome_iff.mpr ha
      rw [outcome_of_none hs fun _ => ha, alone, Postgres.finishPassport_of_known hn ha']
      by_cases hb : passportIdFromBody body = ""
      case pos =>
        simp only [statements, if_pos hb, List.flatMap_cons, List.flatMap_nil, List.append_nil, hr,
          Option.getD_some, Postgres.recordPassport]
        rfl
      case neg =>
        simp only [statements, if_neg hb, List.flatMap_cons, List.flatMap_nil, List.append_nil,
          List.foldl_append, hr, Option.getD_some, Postgres.recordPassport]
        rw [foldl_insertPassport ⟨_, a, body⟩ rfl]
        rfl

-- The operations of the repository are those on the tables.
theorem Call.outcome_tables (call : Call) (p : Postgres) :
    call.outcome (tables p) = ((call.alone p).1, tables (call.alone p).2) := by
  cases call
  case finishRegister => exact outcome_finishRegister ..
  case finishPassport => exact outcome_finishPassport ..

end Outcome

theorem Statement.execute_congr {st : Statement} (h : t'.contains st.key = t.contains st.key) :
    st.execute t' = st.execute t := by
  unfold execute
  rw [h]

-- The statements up to some point have the changes that they would make to the committed rows.
structure Applied (call : Call) (t : Tables) (pending : List Change) (done rest : List Statement) :
    Prop where
  eq       : call.statements = done ++ rest
  succeeds : ∀ st ∈ done, (st.execute t).isSome
  written  : pending = done.flatMap fun st => (st.execute t).getD []

namespace Applied

variable {call : Call} {t : Tables} {pending : List Change} {done rest : List Statement}
variable {st : Statement}

theorem start (call : Call) (t : Tables) : Applied call t [] [] call.statements where
  eq       := rfl
  succeeds := nofun
  written  := rfl

theorem mem_done (h : Applied call t pending done rest) (hs : st ∈ done) : st ∈ call.statements :=
  h.eq ▸ List.mem_append_left _ hs

theorem mem_next (h : Applied call t pending done (st :: rest)) : st ∈ call.statements :=
  h.eq ▸ List.mem_append_right _ List.mem_cons_self

theorem changes_key (hs : st ∈ call.statements) (he : st.execute t = some changes)
    (hd : d ∈ changes) : d.key = st.key := by
  rcases (Call.executes hs).execute_cases t with ⟨hn, _⟩ | ⟨_, hc, hk, _⟩
  case inl => rw [hn] at he; cases he
  case inr =>
    rw [hc] at he
    cases he
    exact hk d hd

theorem keys (h : Applied call t pending done rest) (hd : d ∈ pending) :
    ∃ st ∈ done, d.key = st.key := by
  rw [h.written, List.mem_flatMap] at hd
  obtain ⟨st, hs, hd⟩ := hd
  obtain ⟨changes, he⟩ := Option.isSome_iff_exists.mp (h.succeeds st hs)
  exact ⟨st, hs, changes_key (h.mem_done hs) he (by simpa [he] using hd)⟩

-- A statement does not see the changes of those before it, since they are about other rows.
theorem execute_view (h : Applied call t pending done (st :: rest)) :
    st.execute (pending.foldl Tables.apply t) = st.execute t := by
  refine Statement.execute_congr <| Bool.eq_iff_iff.mpr ⟨fun hc => ?_, Tables.contains_foldl⟩
  refine (Tables.contains_of_foldl hc).resolve_right ?_
  intro ⟨d, hd, hk⟩
  obtain ⟨st', hs', hk'⟩ := h.keys hd
  have hn := call.nodup_keys
  rw [h.eq, List.map_append, List.map_cons, List.nodup_append] at hn
  exact hn.right.right _ (List.mem_map_of_mem hs') _ List.mem_cons_self (hk'.symm.trans hk)

theorem next (h : Applied call t pending done (st :: rest)) (he : st.execute t = some changes) :
    Applied call t (pending ++ changes) (done ++ [st]) rest where
  eq := by rw [h.eq, List.append_assoc, List.singleton_append]
  succeeds st' hs := by
    rcases List.mem_append.mp hs with hs | hs
    case inl => exact h.succeeds st' hs
    case inr => rw [List.mem_singleton.mp hs, he]; rfl
  written := by simp [h.written, he]

theorem level_lt (h : Applied call t pending done (st :: rest)) (hd : d ∈ pending) :
    d.key.level < st.key.level := by
  have hs := call.sorted
  rw [h.eq, List.pairwise_append] at hs
  obtain ⟨st', hm, hk⟩ := h.keys hd
  exact hk ▸ hs.right.right st' hm st List.mem_cons_self

-- A row that has been found is not taken away, and one that has been inserted is locked.
theorem execute_commit {db : Database ι} (hx : db.Exclusive Change.key) (hj : j ≠ i)
    (h : Applied call db.committed (db.pending j) done rest) (hs : st ∈ done) :
    st.execute (db.view Tables.apply i) = st.execute db.committed := by
  refine Statement.execute_congr <| Bool.eq_iff_iff.mpr ⟨fun hc => ?_, Tables.contains_foldl⟩
  by_contra hn
  obtain ⟨d, hd, hk⟩ := (Tables.contains_of_foldl hc).resolve_left hn
  have hm : st.row ∈ db.pending j := by
    rw [h.written, List.mem_flatMap]
    exact ⟨st, hs, by simp [Statement.execute_of_not_contains hn]⟩
  exact hj <| hx.eq hm hd hk.symm

theorem commit {db : Database ι} (hx : db.Exclusive Change.key) (hj : j ≠ i)
    (h : Applied call db.committed (db.pending j) done rest) :
    Applied call (db.view Tables.apply i) (db.pending j) done rest where
  eq := h.eq
  succeeds st hs := by
    rw [h.execute_commit hx hj hs]
    exact h.succeeds st hs
  written := by
    refine h.written.trans <| List.flatMap_congr fun st hs => ?_
    rw [h.execute_commit hx hj hs]

end Applied

theorem Call.found_of_register {call : Call} (h : call.part = .register) :
    call.found n = .executing n call.statements := by
  cases call
  case finishRegister => rfl
  case finishPassport => cases h

theorem Call.found_of_passport {call : Call} (h : call.part = .passport) :
    call.found n = .findingAgent n := by
  cases call
  case finishRegister => cases h
  case finishPassport => rfl

-- What is known about a call at each of its points. Of its transactions at most the first one fails.
def Stage (call : Call) (t : Tables) (pending : List Change) : Pc → Prop
  | .selecting n      => pending = [] ∧ (n = 8 ∨ n = 7 ∧ t.contains call.idem)
  | .findingAgent n   => pending = [] ∧ n = 7 ∧ call.part = .passport
  | .executing n rest =>
    n = 7 ∧ (call.part = .passport → t.contains (.agent call.agentId)) ∧
      ∃ done, Applied call t pending done rest
  | .rollingBack n    => n = 7 ∧ t.contains call.idem
  | .returned result  => pending = [] ∧ ∀ message, result ≠ .error (.race message)

-- A transaction that holds the contested key cannot be overtaken.
theorem Stage.commit {db : Database ι} (h : Stage call db.committed (db.pending j) pc) (hj : j ≠ i)
    (hx : db.Exclusive Change.key) : Stage call (db.view Tables.apply i) (db.pending j) pc := by
  cases pc
  case selecting   =>
    exact ⟨h.left, h.right.imp_right fun ⟨hn, hk⟩ => ⟨hn, Tables.contains_foldl hk⟩⟩
  case rollingBack => exact ⟨h.left, Tables.contains_foldl h.right⟩
  case executing   =>
    obtain ⟨hn, hk, done, ha⟩ := h
    exact ⟨hn, fun hc => Tables.contains_foldl (hk hc), done, ha.commit hx hj⟩
  case findingAgent | returned => exact h

section Stages

variable [DecidableEq ι] {call : Call} {i j : ι} {db : Database ι} {pc pc' : Pc}

theorem step_effect (call : Call) (i : ι) (db : Database ι) (pc : Pc) :
    db.Effect i Tables.apply (∃ n, pc = .executing n []) (step call i db pc).1 := by
  cases pc
  case selecting n =>
    cases n
    case zero => exact .read
    case succ => simp only [step]; split <;> constructor
  case findingAgent => simp only [step]; split <;> constructor
  case executing n rest =>
    cases rest
    case nil  => exact .commit ⟨n, rfl⟩
    case cons => simp only [step]; split <;> constructor
  case rollingBack => exact .rollback
  case returned    => exact .read

-- What is known about the call of a step, and everything that the step can do.
inductive Move (call : Call) (i : ι) (db : Database ι) : Pc → Database ι → Pc → Prop
  | cached (h : call.select db.committed = some body) :
    Move call i db (.selecting n) (db.rollback i) (.returned <| .ok body)
  | missed (hp : db.pending i = []) (h : call.select db.committed = none) :
    Move call i db (.selecting 8) db (call.found 7)
  | known (hp : db.pending i = []) (hc : call.part = .passport)
    (h : db.committed.contains (.agent call.agentId)) :
    Move call i db (.findingAgent 7) db (.executing 7 call.statements)
  | unknown (hp : call.part = .passport) (h : ¬db.committed.contains (.agent call.agentId)) :
    Move call i db (.findingAgent 7) (db.rollback i) (.returned <| .error .agentNotFound)
  | execute (hk : call.part = .passport → db.committed.contains (.agent call.agentId))
    (h : Applied call db.committed (db.pending i) done (st :: rest))
    (he : st.execute db.committed = some changes) :
    Move call i db (.executing 7 (st :: rest)) (db.write i changes) (.executing 7 rest)
  | conflict (hk : st.key = call.idem) (h : db.committed.contains call.idem) :
    Move call i db (.executing 7 (st :: rest)) db (.rollingBack 7)
  | commit (hk : call.part = .passport → db.committed.contains (.agent call.agentId))
    (h : Applied call db.committed (db.pending i) call.statements []) :
    Move call i db (.executing 7 []) (db.commit i Tables.apply) (.returned <| .ok call.responseBody)
  | rollback (h : db.committed.contains call.idem) :
    Move call i db (.rollingBack 7) (db.rollback i) (.selecting 7)
  | stay (hp : db.pending i = []) (h : ∀ message, result ≠ .error (.race message)) :
    Move call i db (.returned result) db (.returned result)

theorem move_selecting (h : Stage call db.committed (db.pending i) (.selecting n)) :
    Move call i db (.selecting n) (step call i db (.selecting n)).1
      (step call i db (.selecting n)).2 := by
  obtain ⟨hp, hn⟩ := h
  cases n
  case zero => omega
  case succ n =>
    simp only [step, db.view_of_nil _ hp]
    cases hs : call.select db.committed
    case some body => exact .cached hs
    case none      =>
      have hn : n = 7 := by
        rcases hn with hn | ⟨_, hk⟩
        case inl => omega
        case inr => exact absurd hk (Call.select_eq_none_iff.mp hs)
      subst hn
      exact .missed hp hs

theorem move_executing (h : Stage call db.committed (db.pending i) (.executing n (st :: rest))) :
    Move call i db (.executing n (st :: rest)) (step call i db (.executing n (st :: rest))).1
      (step call i db (.executing n (st :: rest))).2 := by
  obtain ⟨rfl, hk, done, ha⟩ := h
  have hv : st.execute (db.view Tables.apply i) = st.execute db.committed := ha.execute_view
  simp only [step, hv]
  rcases (Call.executes ha.mem_next).execute_cases db.committed with
    ⟨hs, hi, hc⟩ | ⟨changes, hs, _, _⟩
  case inl => rw [hs]; exact .conflict hi hc
  case inr => rw [hs]; exact .execute hk ha hs

theorem step_move (h : Stage call db.committed (db.pending i) pc) :
    Move call i db pc (step call i db pc).1 (step call i db pc).2 := by
  cases pc
  case selecting    => exact move_selecting h
  case findingAgent =>
    obtain ⟨hp, rfl, hc⟩ := h
    simp only [step, db.view_of_nil _ hp]
    split
    case isTrue h  => exact .known hp hc h
    case isFalse h => exact .unknown hc h
  case executing rest =>
    cases rest
    case cons => exact move_executing h
    case nil  =>
      obtain ⟨rfl, hk, done, ha⟩ := h
      have he : call.statements = done := ha.eq.trans done.append_nil
      exact .commit hk (he ▸ ha)
  case rollingBack =>
    obtain ⟨rfl, h⟩ := h
    exact .rollback h
  case returned => exact .stay h.left h.right

theorem Move.keeps (m : Move call i db pc db' pc') (hx : db.Exclusive Change.key)
    (hr : Ready i db pc) :
    db'.Exclusive Change.key ∧ Stage call db'.committed (db'.pending i) pc' := by
  cases m
  case cached        => exact ⟨hx.rollback, Store.rollback_pending_self, nofun⟩
  case unknown       => exact ⟨hx.rollback, Store.rollback_pending_self, nofun⟩
  case stay hp h     => exact ⟨hx, hp, h⟩
  case known hp _ h  => exact ⟨hx, rfl, fun _ => h, [], hp ▸ .start ..⟩
  case conflict _ h  => exact ⟨hx, rfl, h⟩
  case rollback h    => exact ⟨hx.rollback, Store.rollback_pending_self, .inr ⟨rfl, h⟩⟩
  case commit        => exact ⟨hx.commit, Store.commit_pending_self, nofun⟩
  case missed hp h   =>
    cases hc : call.part
    case register =>
      rw [Call.found_of_register hc]
      exact ⟨hx, rfl, fun he => (nomatch hc.symm.trans he), [], hp ▸ .start ..⟩
    case passport =>
      rw [Call.found_of_passport hc]
      exact ⟨hx, hp, rfl, hc⟩
  case execute done st rest changes hk h he =>
    refine ⟨hx.write fun d hd => ?_, rfl, hk, done ++ [st], ?_⟩
    case refine_1 => exact Applied.changes_key h.mem_next he hd ▸ hr
    case refine_2 => rw [Store.write_pending_self]; exact h.next he

def stages (calls : ι → Call) (g : Guard ι (Database ι) Pc Unit) : Outline (system calls) g where
  inv db           := db.Exclusive Change.key
  asn i pc db      := Stage (calls i) db.committed (db.pending i) pc
  keeps hx ha hr _ := by
    rw [State.next_locals_self]
    exact (step_move ha).keeps hx hr
  stable {s i j _} hj hx _ hb _ _ := by
    have he := step_effect (calls i) i s.shared (s.locals i)
    exact he.preserves (P := fun t ds => Stage (calls j) t ds (s.locals j)) hj hb fun _ => hb.commit hj hx

theorem stages_opened (calls : ι → Call) (g : Guard ι (Database ι) Pc Unit) (t : Tables) :
    (stages calls g).Holds (opened ι t) where
  inv   := ⟨nofun⟩
  asn _ := ⟨rfl, .inl rfl⟩

end Stages

section Points

variable {call : Call} {t : Tables}

theorem Applied.not_contains_idem (h : Applied call t pending call.statements []) :
    ¬t.contains call.idem := by
  obtain ⟨st, hs, hk⟩ := List.mem_map.mp call.idem_mem
  rcases (Call.executes hs).execute_cases t with ⟨hn, _⟩ | ⟨_, _, _, hc⟩
  case inl =>
    have hi := h.succeeds st hs
    rw [hn] at hi
    cases hi
  case inr => exact hc hk

-- All statements of a transaction, executed at once.
theorem Applied.outcome (h : Applied call t pending call.statements [])
    (hk : call.part = .passport → t.contains (.agent call.agentId)) :
    call.outcome t = (.ok call.responseBody, pending.foldl Tables.apply t) := by
  rw [Call.outcome_of_none (Call.select_eq_none_iff.mpr h.not_contains_idem) hk, h.written]

-- A call that does not find its agent may have been overtaken by one with its key. It takes effect when
-- it has not found the key, since there were not more agents then.
def Evidence (call : Call) (db : Database ι) (t : Tables) : Pc → Prop
  | .findingAgent _ =>
    call.select t = none ∧ ∀ a, t.contains (.agent a) → db.committed.contains (.agent a)
  | _               => True

variable [DecidableEq ι] {i : ι} {db : Database ι} {pc pc' : Pc}

theorem contains_step (h : db.committed.contains k) :
    (step call i db pc).1.committed.contains k := by
  have he := step_effect call i db pc
  generalize (step call i db pc).1 = db' at he ⊢
  cases he
  case commit => exact Tables.contains_foldl h
  all_goals exact h

theorem Evidence.step {call' : Call} (h : Evidence call' db t pc') :
    Evidence call' (step call i db pc).1 t pc' := by
  cases pc'
  case findingAgent => exact ⟨h.left, fun a ha => contains_step (h.right a ha)⟩
  all_goals trivial

theorem Move.point (m : Move call i db pc db' pc') :
    Point (fun t db => t = db.committed) Pc.result call.outcome
      (fun pc db t => Evidence call db t pc) db.committed db pc db' pc' := by
  cases m
  case cached h     => exact .perform rfl rfl (Call.outcome_of_some h) rfl
  case missed hp h  =>
    cases hc : call.part
    case register =>
      rw [Call.found_of_register hc]
      exact .prepare rfl rfl rfl fun _ _ => trivial
    case passport =>
      rw [Call.found_of_passport hc]
      exact .observe rfl rfl rfl ⟨h, fun _ => id⟩
  case unknown hp h =>
    refine .lookBack rfl rfl rfl fun t ht => Call.outcome_of_unknown ht.left hp fun hc => h ?_
    exact ht.right _ hc
  case commit hk h  => exact .perform rfl rfl (h.outcome hk) rfl
  case stay result _ _ =>
    refine .idle ?_ rfl rfl
    rcases result with (_ | _) | _ <;> rfl
  all_goals exact .prepare rfl rfl rfl fun _ _ => trivial

def points (calls : ι → Call) (g : Guard ι (Database ι) Pc Unit) :
    Points (system calls) g (stages calls g) (fun i => (calls i).outcome)
      (fun t db => t = db.committed) (· = .selecting 8) Pc.result where
  evidence i pc db t := Evidence (calls i) db t pc
  begins h           := by rw [h]; rfl
  initial h _        := by rw [h]; trivial
  stable _ _ h _ _   := h.step
  point ho h _ _     := by
    rw [State.next_locals_self, h]
    exact (step_move (ho.asn _)).point

variable {calls : ι → Call} {g : Guard ι (Database ι) Pc Unit} {s : State ι (Database ι) Pc}

theorem run_linearizes (r : Run (system calls) g (opened ι t) s) :
    ∃ order, Linearizes (fun t db => t = db.committed) Pc.result (fun i => (calls i).outcome) t
      (Precedes (· = .selecting 8) Pc.result r) s order :=
  (points calls g).linearizes (stages_opened calls g t) (fun _ => rfl) rfl r

-- Whatever the calls are and however their transactions are interleaved, there is an order in which the
-- operations of the repository return the same results and leave the same rows behind.
theorem run_finishes_linearizable {p : Postgres} (r : Run (system calls) g (opened ι (tables p)) s) :
    ∃ order, Linearizes (fun p db => tables p = db.committed) Pc.result (fun i p => (calls i).alone p)
      p (Precedes (· = .selecting 8) Pc.result r) s order :=
  (run_linearizes r).imp fun _ h => h.of_map fun i p => (calls i).outcome_tables p

end Points

section Progress

-- The number of steps that are left. Only the statement for the key of a call can fail, and the
-- transaction after that finds the key.
def Call.left (call : Call) : Pc → Nat
  | .selecting n      => if n = 8 then 5 else 1
  | .findingAgent _   => 4
  | .executing _ rest =>
    if call.idem ∈ rest.map Statement.key then
      3 + rest.findIdx (·.key = call.idem)
    else
      rest.length + 1
  | .rollingBack _    => 2
  | .returned _       => 0

variable {call : Call}

theorem Call.left_cons_of_eq (h : st.key = call.idem) : call.left (.executing n (st :: rest)) = 3 := by
  simp [left, h, List.findIdx_cons]

theorem Call.left_cons_of_ne (h : st.key ≠ call.idem) :
    call.left (.executing n (st :: rest)) = call.left (.executing m rest) + 1 := by
  simp only [left, List.map_cons, List.mem_cons, h.symm, false_or, List.findIdx_cons, h, decide_false,
    cond_false, List.length_cons]
  split <;> omega

theorem Call.left_found (call : Call) : call.left (call.found 7) = 4 := by
  cases call <;> simp [found, left, statements, idem, Statement.key, Statement.row, Change.key,
    List.findIdx_cons]

theorem Call.left_statements (h : call.part = .passport) :
    call.left (.executing n call.statements) = 3 := by
  cases call
  case finishRegister => cases h
  case finishPassport => exact left_cons_of_eq rfl

theorem Applied.left_next (h : Applied call t pending done (st :: rest)) :
    call.left (.executing 7 rest) ≤ call.left (.executing 7 (st :: rest)) - 1 := by
  by_cases hk : st.key = call.idem
  case pos =>
    have hn := call.nodup_keys
    have hl := call.length_statements_le
    rw [h.eq, List.map_append, List.map_cons, List.nodup_append, List.nodup_cons, hk] at hn
    rw [h.eq, List.length_append, List.length_cons] at hl
    rw [Call.left_cons_of_eq hk, Call.left, if_neg hn.right.left.left]
    omega
  case neg =>
    rw [Call.left_cons_of_ne (m := 7) hk]
    omega

theorem Move.left [DecidableEq ι] {i : ι} {db db' : Database ι} (m : Move call i db pc db' pc') :
    call.left pc' ≤ call.left pc - 1 := by
  cases m
  case missed        => rw [call.left_found]; rfl
  case known hc _    => rw [call.left_statements hc]; rfl
  case execute h _   => exact h.left_next
  case conflict hk _ => rw [call.left_cons_of_eq hk]; rfl
  case rollback      => exact Nat.le_refl 1
  all_goals exact Nat.zero_le _

-- The row that the next statement of a call waits for.
def Pc.wants : Pc → List Key
  | .executing _ (st :: _) => [st.key]
  | _                      => []

theorem Stage.level_lt (h : Stage call t pending pc) (hk : k ∈ pc.wants) (hd : d ∈ pending) :
    d.key.level < k.level := by
  cases pc
  case executing rest =>
    cases rest
    case nil  => cases hk
    case cons =>
      obtain ⟨_, _, done, ha⟩ := h
      exact List.mem_singleton.mp hk ▸ ha.level_lt hd
  all_goals cases hk

theorem ready_of_free {db : Database ι} (h : ∀ k ∈ pc.wants, db.Free Change.key i k) :
    Ready i db pc := by
  cases pc
  case executing rest =>
    cases rest
    case nil  => trivial
    case cons => exact h _ List.mem_cons_self
  all_goals trivial

def Unfinished (s : State ι (Database ι) Pc) (i : ι) : Prop :=
  ∀ result, s.locals i ≠ .returned result

theorem returned_of_left {call : Call} (h : call.left pc = 0) : ∃ result, pc = .returned result := by
  cases pc
  case returned result => exact ⟨result, rfl⟩
  case selecting | executing =>
    simp only [Call.left] at h
    split at h <;> omega
  all_goals cases h

variable [DecidableEq ι] {calls : ι → Call} {g : Guard ι (Database ι) Pc Unit}
variable {s : State ι (Database ι) Pc} {i : ι} {t : Tables}

theorem run_exists_ready (r : Run (system calls) g (opened ι t) s) (hi : Unfinished s i) :
    ∃ j, Unfinished s j ∧ (system calls).allows j () s.shared (s.locals j) := by
  have ho := (stages_opened calls g t).run r
  obtain ⟨j, hj, hf⟩ := Store.exists_free (w := fun i => (s.locals i).wants) Key.level_le
    (fun i k hk d hd => (ho.asn i).level_lt hk hd) i
  refine ⟨j, ?_, ready_of_free hf⟩
  rcases hj with rfl | hp
  case inl => exact hi
  case inr =>
    intro result he
    have ha := ho.asn j
    rw [he] at ha
    exact hp ha.left

theorem run_returns (r : Run (system calls) g (opened ι t) s) (ht : 5 ≤ r.turns i) :
    ∃ result, s.locals i = .returned result := by
  have hr := r.rank_le_of (I := (stages calls g).Holds) (fun i => (calls i).left)
    (fun ho a c => ho.next a c) (fun ho _ _ => (step_move (ho.asn _)).left) i (stages_opened ..)
  have hs : (calls i).left ((opened ι t).locals i) = 5 := rfl
  have hz : (calls i).left (s.locals i) = 0 := by omega
  exact returned_of_left hz

-- Some call can always go on. A call returns after at most five statements of its own, so that none of
-- them uses more than two of the eight iterations, and no race is reported. A transaction is begun with
-- its first `SELECT`, and the last one is rolled back with the `SELECT` before that.
theorem run_finishes_progress (r : Run (system calls) g (opened ι t) s) :
    (∀ i, Unfinished s i → ∃ j, Unfinished s j ∧ (system calls).allows j () s.shared (s.locals j)) ∧
    (∀ i, 5 ≤ r.turns i → ∃ result, s.locals i = .returned result) ∧
    ∀ i message, s.locals i ≠ .returned (.error <| .race message) := by
  refine ⟨fun i => run_exists_ready r, fun i => run_returns r, fun i message he => ?_⟩
  have ha := ((stages_opened calls g t).run r).asn i
  rw [he] at ha
  exact ha.right message rfl

end Progress

end RestBff.Transactions
