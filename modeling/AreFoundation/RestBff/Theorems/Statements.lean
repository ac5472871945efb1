import AreFoundation.RestBff.Transactions

namespace RestBff.Transactions

-- The tables that one of the two functions changes.
inductive Part
  | register
  | passport
  deriving DecidableEq

def Key.part : Key → Part
  | .agent _ | .registerIdem _    => .register
  | .passportIdem _ | .passport _ => .passport

-- Rows are locked in the order of their tables.
def Key.level : Key → Nat
  | .agent _ | .passportIdem _    => 0
  | .registerIdem _ | .passport _ => 1

theorem Key.level_le (k : Key) : k.level ≤ 1 := by
  cases k <;> simp [level]

namespace Tables

def Agree (t t' : Tables) : Part → Prop
  | .register => t.agents = t'.agents ∧ t.registerIdem = t'.registerIdem
  | .passport => t.passportIdem = t'.passportIdem ∧ t.passports = t'.passports

variable {t t' t'' : Tables} {p : Part} {k : Key} {d : Change} {ds : List Change}

namespace Agree

theorem refl (t : Tables) (p : Part) : t.Agree t p := by
  cases p <;> exact ⟨rfl, rfl⟩

theorem trans (h : t.Agree t' p) (h' : t'.Agree t'' p) : t.Agree t'' p := by
  cases p <;> exact ⟨h.left.trans h'.left, h.right.trans h'.right⟩

theorem contains_eq (h : t.Agree t' k.part) : t.contains k = t'.contains k := by
  cases k <;> simp only [contains, h.left, h.right]

theorem apply (h : t.Agree t' p) (d : Change) : (t.apply d).Agree (t'.apply d) p := by
  cases p <;> cases d <;> simp_all [Agree, Tables.apply]

theorem foldl (h : t.Agree t' p) (ds : List Change) :
    (ds.foldl Tables.apply t).Agree (ds.foldl Tables.apply t') p := by
  induction ds generalizing t t'
  case nil          => exact h
  case cons d ds hi => exact hi (h.apply d)

end Agree

theorem agree_apply (h : d.key.part ≠ p) : (t.apply d).Agree t p := by
  cases p <;> cases d <;> simp_all [Agree, apply, Change.key, Key.part]

theorem agree_foldl (h : ∀ d ∈ ds, d.key.part ≠ p) : (ds.foldl apply t).Agree t p := by
  induction ds generalizing t
  case nil => exact .refl t p
  case cons d ds hi =>
    rw [List.forall_mem_cons] at h
    exact (hi h.right).trans (agree_apply h.left)

theorem passportId_updated (row : PassportRow) (passportId : String) :
    (if row.passportId = passportId then { row with responseBody := body } else row).passportId =
      row.passportId := by
  split <;> rfl

-- A change takes no row away, and it adds at most the one of its key.
theorem contains_apply (h : t.contains k) : (t.apply d).contains k := by
  cases d
  case updatePassport =>
    cases k <;> simpa [contains, apply, Function.comp_def, passportId_updated] using h
  all_goals cases k <;> simp_all [contains, apply]

theorem contains_of_apply (h : (t.apply d).contains k) : t.contains k ∨ d.key = k := by
  cases d
  case updatePassport =>
    refine .inl ?_
    cases k <;> simpa [contains, apply, Function.comp_def, passportId_updated] using h
  all_goals cases k <;> simpa [contains, apply, Change.key] using h

theorem contains_foldl (h : t.contains k) : (ds.foldl apply t).contains k := by
  induction ds generalizing t
  case nil          => exact h
  case cons d ds hi => exact hi (contains_apply h)

theorem contains_of_foldl (h : (ds.foldl apply t).contains k) :
    t.contains k ∨ ∃ d ∈ ds, d.key = k := by
  induction ds generalizing t
  case nil => exact .inl h
  case cons d ds hi =>
    rcases hi h with h | ⟨d', hd, hk⟩
    case inl => exact (contains_of_apply h).imp_right fun hk => ⟨d, List.mem_cons_self, hk⟩
    case inr => exact .inr ⟨d', List.mem_cons_of_mem d hd, hk⟩

end Tables

namespace Call

def part : Call → Part
  | finishRegister _ _ _ _ => .register
  | finishPassport _ _ _   => .passport

-- The key that the calls compete for.
def idem : Call → Key
  | finishRegister idemKey _ _ _ => .registerIdem idemKey
  | finishPassport idemKey _ _   => .passportIdem idemKey

-- None of the rows that the call inserts exists, and a passport is for an agent that exists.
def Fresh (t : Tables) : Call → Prop
  | finishRegister idemKey agentId _ _          =>
    ¬t.contains (.registerIdem idemKey) ∧ ¬t.contains (.agent agentId)
  | finishPassport idemKey agentId responseBody =>
    ¬t.contains (.passportIdem idemKey) ∧ t.contains (.agent agentId) ∧
      (passportIdFromBody responseBody ≠ "" →
        ¬t.contains (.passport <| passportIdFromBody responseBody))

-- The rows of the call, and no others, have been added to the tables of its part.
def Stores (init t : Tables) : Call → Prop
  | finishRegister idemKey agentId responseBody record =>
    t.agents = init.agents ++ [record.toRow agentId] ∧
      t.registerIdem = init.registerIdem ++ [⟨idemKey, responseBody⟩]
  | finishPassport idemKey agentId responseBody        =>
    t.passportIdem = init.passportIdem ++ [⟨idemKey, responseBody⟩] ∧
      t.passports = init.passports ++
        if passportIdFromBody responseBody = "" then [] else
          [⟨passportIdFromBody responseBody, agentId, responseBody⟩]

def idemRows (t : Tables) : Call → List IdemRow
  | finishRegister idemKey _ _ _ => t.registerIdem.filter (·.idemKey = idemKey)
  | finishPassport idemKey _ _   => t.passportIdem.filter (·.idemKey = idemKey)

variable {call call' : Call} {t init : Tables} {st : Statement}

theorem idem_mem (call : Call) : call.idem ∈ call.statements.map Statement.key := by
  cases call <;> simp [statements, idem, Statement.key, Statement.row, Change.key]

theorem idem_part (call : Call) : call.idem.part = call.part := by
  cases call <;> rfl

-- The statement for the key that the calls compete for is the only one that can fail.
inductive Executes (call : Call) : Statement → Prop
  | insert (hp : row.key.part = call.part) (hk : row.key = call.idem) :
    Executes call (.insert row)
  | insertOrIgnore (hp : row.key.part = call.part) (hk : row.key ≠ call.idem) :
    Executes call (.insertOrIgnore row)
  | insertOrUpdate (hp : row.key.part = call.part) (hk : row.key ≠ call.idem)
    (hc : conflict.key = row.key) :
    Executes call (.insertOrUpdate row conflict)

theorem mem_finishRegister (h : st ∈ (finishRegister key a body record).statements) :
    st = .insertOrIgnore (.insertAgent <| record.toRow a) ∨
      st = .insert (.insertRegisterIdem ⟨key, body⟩) := by
  simpa [statements] using h

theorem mem_finishPassport (h : st ∈ (finishPassport key a body).statements) :
    st = .insert (.insertPassportIdem ⟨key, body⟩) ∨
      passportIdFromBody body ≠ "" ∧
        st = .insertOrUpdate (.insertPassport ⟨passportIdFromBody body, a, body⟩)
          (.updatePassport (passportIdFromBody body) body) := by
  rw [statements, List.mem_cons] at h
  refine h.imp_right fun h => ?_
  split at h
  case isTrue     => cases h
  case isFalse hn => exact ⟨hn, List.mem_singleton.mp h⟩

theorem executes (h : st ∈ call.statements) : call.Executes st := by
  cases call
  case finishRegister =>
    rcases mem_finishRegister h with rfl | rfl
    case inl => exact .insertOrIgnore rfl nofun
    case inr => exact .insert rfl rfl
  case finishPassport =>
    rcases mem_finishPassport h with rfl | ⟨_, rfl⟩
    case inl => exact .insert rfl rfl
    case inr => exact .insertOrUpdate rfl nofun rfl

theorem Executes.part (h : call.Executes st) : st.key.part = call.part := by
  cases h <;> assumption

theorem sorted (call : Call) :
    call.statements.Pairwise fun st st' => st.key.level < st'.key.level := by
  cases call
  case finishRegister => simp [statements, Statement.key, Statement.row, Change.key, Key.level]
  case finishPassport body =>
    by_cases h : passportIdFromBody body = "" <;>
      simp [statements, h, Statement.key, Statement.row, Change.key, Key.level]

theorem nodup_keys (call : Call) : (call.statements.map Statement.key).Nodup := by
  refine List.pairwise_map.mpr <| call.sorted.imp fun hlt he => ?_
  exact absurd (congrArg Key.level he) hlt.ne

theorem Fresh.not_contains (h : call.Fresh t) (hs : st ∈ call.statements) : ¬t.contains st.key := by
  cases call
  case finishRegister =>
    rcases mem_finishRegister hs with rfl | rfl
    case inl => exact h.right
    case inr => exact h.left
  case finishPassport =>
    rcases mem_finishPassport hs with rfl | ⟨hn, rfl⟩
    case inl => exact h.left
    case inr => exact h.right.right hn

theorem Fresh.not_contains_idem (h : call.Fresh t) : ¬t.contains call.idem := by
  cases call <;> exact h.left

theorem Fresh.contains_agent (h : call.Fresh t) (hp : call.part = .passport) :
    t.contains (.agent call.agentId) := by
  cases call
  case finishRegister => cases hp
  case finishPassport => exact h.right.left

theorem stores_iff :
    call.Stores init t ↔
      t.Agree ((call.statements.map Statement.row).foldl Tables.apply init) call.part := by
  cases call
  case finishRegister => rfl
  case finishPassport body =>
    by_cases h : passportIdFromBody body = "" <;>
      simp [Stores, Tables.Agree, part, statements, h, Statement.row, Tables.apply]

theorem filter_concat_idem {rows : List IdemRow} (h : ¬rows.any (·.idemKey = key)) :
    (rows ++ [(⟨key, body⟩ : IdemRow)]).filter (·.idemKey = key) = [⟨key, body⟩] := by
  have hn : rows.filter (·.idemKey = key) = [] := by
    simpa [List.filter_eq_nil_iff] using h
  simp [hn]

theorem Stores.idemRows_eq (h : call.Stores init t) (hf : call.Fresh init) :
    call.idemRows t = [⟨call.idemKey, call.responseBody⟩] := by
  have hn := hf.not_contains_idem
  cases call
  case finishRegister => rw [idemRows, h.right]; exact filter_concat_idem hn
  case finishPassport => rw [idemRows, h.left]; exact filter_concat_idem hn

theorem select_eq_head? : call.select t = (call.idemRows t).head?.map (·.responseBody) := by
  cases call <;> simp [select, idemRows]

theorem idemRows_congr (hk : call.idemKey = call'.idemKey) (hp : call.part = call'.part) :
    call.idemRows t = call'.idemRows t := by
  cases call
  case finishRegister =>
    cases call'
    case finishRegister => cases hk; rfl
    case finishPassport => cases hp
  case finishPassport =>
    cases call'
    case finishRegister => cases hp
    case finishPassport => cases hk; rfl

-- What a call finds after another one of its part has stored its rows.
theorem Stores.select_eq (h : call.Stores init t) (hf : call.Fresh init)
    (hk : call.idemKey = call'.idemKey) (hp : call.part = call'.part) :
    call'.select t = some call.responseBody := by
  rw [select_eq_head?, ← idemRows_congr hk hp, h.idemRows_eq hf]
  rfl

theorem select_eq_none_iff : call.select t = none ↔ ¬t.contains call.idem := by
  cases call <;> simp [select, idem, Tables.contains]

theorem length_statements_le (call : Call) : call.statements.length ≤ 2 := by
  cases call
  case finishRegister => exact Nat.le_refl 2
  case finishPassport body =>
    by_cases h : passportIdFromBody body = "" <;> simp [statements, h]

end Call

theorem Statement.execute_of_not_contains {st : Statement} (h : ¬t.contains st.key) :
    st.execute t = some [st.row] := by
  simp [execute, h]

-- A statement changes nothing but its own row, and it fails only for the contested key.
theorem Call.Executes.execute_cases {call : Call} (h : call.Executes st) (t : Tables) :
    (st.execute t = none ∧ st.key = call.idem ∧ t.contains call.idem) ∨
      ∃ changes, st.execute t = some changes ∧ (∀ d ∈ changes, d.key = st.key) ∧
        (st.key = call.idem → ¬t.contains call.idem) := by
  by_cases hc : t.contains st.key
  case neg =>
    refine .inr ⟨_, Statement.execute_of_not_contains hc, ?_, fun hk => hk ▸ hc⟩
    exact fun d hd => List.mem_singleton.mp hd ▸ rfl
  case pos =>
    cases h
    case insert hk                         => exact .inl ⟨if_pos hc, hk, hk ▸ hc⟩
    case insertOrIgnore hk                 =>
      exact .inr ⟨[], if_pos hc, nofun, fun he => absurd he hk⟩
    case insertOrUpdate conflict _ hk he =>
      refine .inr ⟨[conflict], if_pos hc, ?_, fun he => absurd he hk⟩
      exact fun d hd => List.mem_singleton.mp hd ▸ he

end RestBff.Transactions
