import AreFoundation.RestBff.Postgres

namespace RestBff

namespace Repository

variable [Repository ρ] {rp rp' : ρ} {idemKey agentId : String} {responseBody : Json}

-- The body of an agent has been stored for the key.
structure RecordsRegister (rp : ρ) (idemKey : String) (responseBody : Json) (rp' : ρ) : Prop where
  registerIdem : ∀ key, getRegisterIdem rp' key =
                   if key = idemKey then some responseBody else getRegisterIdem rp key
  passportIdem : getPassportIdem rp' = getPassportIdem rp
  passportBody : getPassportBody rp' = getPassportBody rp
  listed       : listPassportBodiesByAgent rp' = listPassportBodiesByAgent rp

-- The body of a passport has been stored for the key. If another passport with the identifier has been
-- stored before, it is not known whether the passport is listed.
structure RecordsPassport (rp : ρ) (idemKey agentId : String) (responseBody : Json) (rp' : ρ) :
    Prop where
  registerIdem : getRegisterIdem rp' = getRegisterIdem rp
  passportIdem : ∀ key, getPassportIdem rp' key =
                   if key = idemKey then some responseBody else getPassportIdem rp key
  passportBody : ∀ id, getPassportBody rp' id =
                   if id = passportIdFromBody responseBody ∧ id ≠ "" then
                     some responseBody
                   else
                     getPassportBody rp id
  listed       : passportIdFromBody responseBody ≠ "" →
                   getPassportBody rp (passportIdFromBody responseBody) = none →
                   ∀ a doc, doc ∈ listPassportBodiesByAgent rp a ∨ a = agentId ∧ doc = responseBody →
                     doc ∈ listPassportBodiesByAgent rp' a

-- Nothing that has been stored for a key is taken back.
structure Extends (rp rp' : ρ) : Prop where
  register : ∀ {key doc}, getRegisterIdem rp key = some doc → getRegisterIdem rp' key = some doc
  passport : ∀ {key doc}, getPassportIdem rp key = some doc → getPassportIdem rp' key = some doc

theorem Extends.refl (rp : ρ) : Extends rp rp where
  register := id
  passport := id

theorem RecordsRegister.extends (h : RecordsRegister rp idemKey responseBody rp')
    (hk : getRegisterIdem rp idemKey = none) : Extends rp rp' where
  register {key doc} hd := by
    rw [h.registerIdem, if_neg, hd]
    rintro rfl
    cases hk.symm.trans hd
  passport hd := by rw [h.passportIdem, hd]

theorem RecordsPassport.extends (h : RecordsPassport rp idemKey agentId responseBody rp')
    (hk : getPassportIdem rp idemKey = none) : Extends rp rp' where
  register hd := by rw [h.registerIdem, hd]
  passport {key doc} hd := by
    rw [h.passportIdem, if_neg, hd]
    rintro rfl
    cases hk.symm.trans hd

end Repository

open Repository

-- A body is stored only for a key that is not in use, and otherwise the stored one is returned.
class LawfulRepository (ρ : Type) [Repository ρ] : Prop where
  finishRegister_of_some : ∀ {rp : ρ} {key agentId doc record prev},
    getRegisterIdem rp key = some prev → finishRegister rp key agentId doc record = (prev, rp)
  finishRegister_of_none : ∀ {rp : ρ} {key}, getRegisterIdem rp key = none →
    ∀ agentId doc record, ∃ rp', finishRegister rp key agentId doc record = (doc, rp') ∧
      RecordsRegister rp key doc rp'
  finishPassport_of_some : ∀ {rp : ρ} {key agentId doc prev},
    getPassportIdem rp key = some prev → finishPassport rp key agentId doc = (.ok prev, rp)
  finishPassport_of_none : ∀ {rp : ρ} {key}, getPassportIdem rp key = none →
    ∀ agentId doc, finishPassport rp key agentId doc = (.error .agentNotFound, rp) ∨
      ∃ rp', finishPassport rp key agentId doc = (.ok doc, rp') ∧
        RecordsPassport rp key agentId doc rp'

namespace Memory

variable {m m' : Memory} {idemKey agentId : String} {responseBody : Json} {record : AgentRec}

theorem eq_recordRegister (hk : m.registerIdem.lookup idemKey = none)
    (h : Repository.finishRegister m idemKey agentId responseBody record = (doc, m')) :
    m' = m.recordRegister idemKey agentId responseBody record := by
  rw [repository_finishRegister, finishRegister_of_none hk] at h
  exact (congrArg Prod.snd h).symm

theorem eq_recordPassport (hk : m.passportIdem.lookup idemKey = none)
    (h : Repository.finishPassport m idemKey agentId responseBody = (.ok doc, m')) :
    agentId ∈ m.agents ∧ m' = m.recordPassport idemKey agentId responseBody := by
  rw [repository_finishPassport] at h
  by_cases ha : agentId ∈ m.agents
  case neg =>
    rw [finishPassport_of_not_mem hk ha] at h
    cases h
  case pos =>
    rw [finishPassport_of_mem hk ha] at h
    exact ⟨ha, (congrArg Prod.snd h).symm⟩

theorem recordsRegister :
    RecordsRegister m idemKey responseBody
      (m.recordRegister idemKey agentId responseBody record) where
  registerIdem _ := HashMap.lookup_insert
  passportIdem   := rfl
  passportBody   := rfl
  listed         := rfl

theorem lookup_recordPassport (id : String) :
    (m.recordPassport idemKey agentId responseBody).passports.lookup id =
      if id = passportIdFromBody responseBody ∧ id ≠ "" then
        some responseBody
      else
        m.passports.lookup id := by
  by_cases hn : passportIdFromBody responseBody = ""
  case pos =>
    rw [if_neg fun h => h.right (h.left.trans hn)]
    simp only [recordPassport, hn, if_true]
  case neg =>
    rw [passports_recordPassport rfl hn, HashMap.lookup_insert]
    exact if_congr ⟨fun h => ⟨h, h ▸ hn⟩, And.left⟩ rfl rfl

theorem recordsPassport :
    RecordsPassport m idemKey agentId responseBody
      (m.recordPassport idemKey agentId responseBody) where
  registerIdem     := funext fun key => congrArg (·.lookup key) recordPassport_registerIdem
  passportIdem key := by
    change (m.recordPassport idemKey agentId responseBody).passportIdem.lookup key = _
    rw [recordPassport_passportIdem]
    exact HashMap.lookup_insert
  passportBody := lookup_recordPassport
  listed hn hb := by
    intro a doc h
    have hb := Finmap.lookup_eq_none.mp hb
    change doc ∈ ((m.recordPassport idemKey agentId responseBody).passportIdsOf a).filterMap
      (m.recordPassport idemKey agentId responseBody).passports.lookup
    rw [passportIdsOf_recordPassport rfl hn, passports_recordPassport rfl hn, List.mem_filterMap]
    rcases h with h | ⟨rfl, rfl⟩
    case inr =>
      exact ⟨passportIdFromBody doc, by simp, Finmap.lookup_insert _⟩
    case inl =>
      obtain ⟨id, hi, hd⟩ := List.mem_filterMap.mp h
      refine ⟨id, ?_, ?_⟩
      case refine_1 =>
        split
        case isTrue he => exact List.mem_append_left _ (he ▸ hi)
        case isFalse   => exact hi
      case refine_2 => rw [Finmap.lookup_insert_of_ne _ (HashMap.ne_of_lookup_of_not_mem hd hb), hd]

instance : LawfulRepository Memory where
  finishRegister_of_some hk := finishRegister_of_some hk
  finishRegister_of_none hk _ _ _ := ⟨_, finishRegister_of_none hk, recordsRegister⟩
  finishPassport_of_some hk := finishPassport_of_some hk
  finishPassport_of_none {m _} hk agentId _ := by
    by_cases ha : agentId ∈ m.agents
    case neg => exact .inl <| finishPassport_of_not_mem hk ha
    case pos => exact .inr ⟨_, finishPassport_of_mem hk ha, recordsPassport⟩

end Memory

namespace Postgres

variable {p : Postgres} {idemKey agentId : String} {responseBody : Json} {record : AgentRec}

theorem map_select_insert {t : Table.Keyed IdemRow.idemKey} (h : t.select idemKey = none)
    (key : String) :
    ((t.insert ⟨idemKey, responseBody⟩ h).select key).map (·.responseBody) =
      if key = idemKey then some responseBody else (t.select key).map (·.responseBody) := by
  rw [Table.Keyed.select_insert]
  split <;> rfl

theorem mem_listPassportBodiesByAgent : doc ∈ p.listPassportBodiesByAgent a ↔
    ∃ row ∈ p.passports.rows, row.agentId = a ∧ row.responseBody = doc := by
  simp [listPassportBodiesByAgent, and_assoc]

theorem recordsRegister (h : p.registerIdem.select idemKey = none) :
    RecordsRegister p idemKey responseBody
      { p with
        agents       := p.agents.insertOrIgnore (record.toRow agentId)
        registerIdem := p.registerIdem.insert ⟨idemKey, responseBody⟩ h } where
  registerIdem := map_select_insert h
  passportIdem := rfl
  passportBody := rfl
  listed       := rfl

theorem map_select_recordPassport (id : String) :
    ((p.recordPassport agentId responseBody).select id).map (·.responseBody) =
      if id = passportIdFromBody responseBody ∧ id ≠ "" then
        some responseBody
      else
        (p.passports.select id).map (·.responseBody) := by
  simp only [recordPassport]
  by_cases hn : passportIdFromBody responseBody = ""
  case pos => rw [if_pos hn, if_neg fun h => h.right (h.left.trans hn)]
  case neg =>
    rw [if_neg hn, Table.Keyed.select_insertOrUpdate]
    by_cases he : id = passportIdFromBody responseBody
    case neg => rw [if_neg he, if_neg fun h => he h.left]
    case pos =>
      rw [if_pos he, if_pos ⟨he, he ▸ hn⟩]
      cases p.passports.select id <;> rfl

theorem recordPassport_of_none {id : String} (hi : passportIdFromBody responseBody = id)
    (hn : id ≠ "") (hs : p.passports.select id = none) :
    p.recordPassport agentId responseBody =
      p.passports.insert ⟨id, agentId, responseBody⟩ hs := by
  simp only [recordPassport, hi, hn, if_false]
  exact Table.Keyed.insertOrUpdate_of_none hs

theorem recordsPassport (h : p.passportIdem.select idemKey = none) :
    RecordsPassport p idemKey agentId responseBody
      { p with
        passportIdem := p.passportIdem.insert ⟨idemKey, responseBody⟩ h
        passports    := p.recordPassport agentId responseBody } where
  registerIdem := rfl
  passportIdem := map_select_insert h
  passportBody := map_select_recordPassport
  listed hn hb := by
    intro a doc h
    refine mem_listPassportBodiesByAgent.mpr ?_
    dsimp only
    rw [recordPassport_of_none rfl hn (Option.map_eq_none_iff.mp hb)]
    rcases h with h | ⟨rfl, rfl⟩
    case inl =>
      obtain ⟨row, hm, he⟩ := mem_listPassportBodiesByAgent.mp h
      exact ⟨row, List.mem_append_left _ hm, he⟩
    case inr => exact ⟨_, List.mem_append_right _ (List.mem_singleton_self _), rfl, rfl⟩

instance : LawfulRepository Postgres where
  finishRegister_of_some hk := finishRegister_of_some hk
  finishRegister_of_none hk _ _ _ :=
    ⟨_, finishRegister_of_none (Option.map_eq_none_iff.mp hk), recordsRegister _⟩
  finishPassport_of_some hk := finishPassport_of_some hk
  finishPassport_of_none {p _} hk agentId _ := by
    have hk := Option.map_eq_none_iff.mp hk
    cases ha : p.agents.select agentId
    case none => exact .inl <| finishPassport_of_unknown hk ha
    case some => exact .inr ⟨_, finishPassport_of_known hk ha, recordsPassport hk⟩

end Postgres

end RestBff
