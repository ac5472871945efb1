import AreFoundation.Ledger.Theorems.Attribution

namespace Ledger

namespace Uuid

theorem hexValue?_digitChar (h : n < 16) : hexValue? (Nat.digitChar n) = some n := by
  have values : ∀ i : Fin 16, hexValue? (Nat.digitChar i) = some i.val := by decide
  exact values ⟨n, h⟩

theorem parseHex_hexDigits (n : Nat) (bs : List UInt8) :
    parseHex n (bs.flatMap hexDigits) = some (bs.foldl (fun n b => 256 * n + b.toNat) n) := by
  induction bs generalizing n
  case nil => rfl
  case cons b bs hi =>
    have hb := b.toNat_lt
    have hd := hexValue?_digitChar (n := b.toNat / 16) (by omega)
    have hm := hexValue?_digitChar (n := b.toNat % 16) (by omega)
    have hs : 16 * (16 * n + b.toNat / 16) + b.toNat % 16 = 256 * n + b.toNat := by omega
    simp only [List.flatMap_cons, hexDigits, List.cons_append, List.nil_append, parseHex, hd, hm,
      Option.bind_some, hs, hi, List.foldl_cons]

def bytes (u : Uuid) : List UInt8 :=
  (List.range 16).map fun i => UInt8.ofNat (u.toNat / 256 ^ (15 - i))

-- The bytes so far are those before the point in the number.
theorem foldl_bytes (u : Uuid) (hk : k ≤ 16) :
    ((List.range k).map fun i => UInt8.ofNat (u.toNat / 256 ^ (15 - i))).foldl
      (fun n b => 256 * n + b.toNat) 0 = u.toNat / 256 ^ (16 - k) := by
  induction k
  case zero => exact (Nat.div_eq_of_lt u.isLt).symm
  case succ k hi =>
    have he : 256 ^ (16 - k) = 256 ^ (15 - k) * 256 := by
      rw [← Nat.pow_succ]
      congr 1
      omega
    have hs : 16 - (k + 1) = 15 - k := by omega
    rw [List.range_succ, List.map_append, List.foldl_append, hi (by omega), he, hs,
      ← Nat.div_div_eq_div_mul]
    simp only [List.map_cons, List.map_nil, List.foldl_cons, List.foldl_nil, UInt8.toNat_ofNat']
    exact Nat.div_add_mod _ 256

theorem parseSimple_bytes (u : Uuid) : parseSimple (u.bytes.flatMap hexDigits) = some u := by
  rw [parseSimple, parseHex_hexDigits, bytes, foldl_bytes u le_rfl]
  simp

theorem ofText?_toText (u : Uuid) : ofText? u.toText = some u := by
  have hb := parseSimple_bytes u
  have ht : u.toText = hexEncode (u.bytes.take 4) ++ "-" ++ hexEncode (u.bytes.drop 4 |>.take 2) ++ "-" ++
    hexEncode (u.bytes.drop 6 |>.take 2) ++ "-" ++ hexEncode (u.bytes.drop 8 |>.take 2) ++ "-" ++
    hexEncode (u.bytes.drop 10) := rfl
  obtain ⟨b₀, b₁, b₂, b₃, b₄, b₅, b₆, b₇, b₈, b₉, b₁₀, b₁₁, b₁₂, b₁₃, b₁₄, b₁₅, h⟩ :
      ∃ b₀ b₁ b₂ b₃ b₄ b₅ b₆ b₇ b₈ b₉ b₁₀ b₁₁ b₁₂ b₁₃ b₁₄ b₁₅, u.bytes =
        [b₀, b₁, b₂, b₃, b₄, b₅, b₆, b₇, b₈, b₉, b₁₀, b₁₁, b₁₂, b₁₃, b₁₄, b₁₅] :=
    ⟨_, _, _, _, _, _, _, _, _, _, _, _, _, _, _, _, rfl⟩
  rw [h] at hb ht
  have hl : u.toText.toList = hexDigits b₀ ++ hexDigits b₁ ++ hexDigits b₂ ++ hexDigits b₃ ++ '-' ::
      (hexDigits b₄ ++ hexDigits b₅ ++ '-' :: (hexDigits b₆ ++ hexDigits b₇ ++ '-' ::
        (hexDigits b₈ ++ hexDigits b₉ ++ '-' :: (hexDigits b₁₀ ++ hexDigits b₁₁ ++ hexDigits b₁₂ ++
          hexDigits b₁₃ ++ hexDigits b₁₄ ++ hexDigits b₁₅)))) := by
    rw [ht]
    simp [hexEncode, String.toList_append]
  unfold ofText?
  rw [hl]
  exact hb

end Uuid

namespace Grpc

structure Carries (entry : LedgerEntry) (request : WriteEntryRequest) : Prop where
  entryType     : entry.entryType = request.entryType
  agentId       : entry.agentId = request.agentId
  content       : entry.content = request.content
  contentType   : entry.contentType = request.contentType
  sourceId      : entry.sourceId = request.sourceId
  correlationId : entry.correlationId = request.correlationId

structure Fits (request : WriteEntryRequest) : Prop where
  entryType      : request.entryType.length ≤ 50
  agentId        : request.agentId.length ≤ 100
  contentType    : request.contentType.length ≤ 100
  sourceId       : request.sourceId.length ≤ 100
  correlationId  : request.correlationId.length ≤ 255
  idempotencyKey : request.idempotencyKey.length ≤ 255

-- In any of the forms in which a UUID can be written.
def Denotes (raw : String) (entry : LedgerEntry) : Prop :=
  Uuid.ofText? raw = Uuid.ofText? entry.entryId

structure Selects (request : QueryEntriesRequest) (entry : LedgerEntry) : Prop where
  entryType     : request.entryType = "" ∨ request.entryType = entry.entryType
  agentId       : request.agentId = "" ∨ request.agentId = entry.agentId
  sourceId      : request.sourceId = "" ∨ request.sourceId = entry.sourceId
  correlationId : request.correlationId = "" ∨ request.correlationId = entry.correlationId
  fromTs        : request.fromTs = 0 ∨ request.fromTs ≤ entry.writtenTs
  toTs          : request.toTs = 0 ∨ entry.writtenTs ≤ request.toTs

-- What a call that asks about the entry is answered.
def Confirms (entry : LedgerEntry) (result : Except Rpc.Status Response) : Read → Prop
  | .getEntry raw          => Denotes raw entry → result = .ok (.entry entry)
  | .queryEntries request  => Selects request entry → request.pageToken = "" →
    ∃ page, result = .ok (.entries page) ∧ (page.nextPageToken = "" → entry ∈ page.entries)
  | .verifyEntry raw       => Denotes raw entry →
    result = .ok (.entryVerified ⟨entry.entryId, true, true, ""⟩)
  | .verifyChain request   => request.entryType = entry.entryType →
    (request.startEntryId = "" ∨ Denotes request.startEntryId entry) →
    (request.endEntryId = "" ∨ Denotes request.endEntryId entry) →
    ∃ n, 0 < n ∧ result = .ok (.chainVerified ⟨true, n, "", ""⟩)
  | .getChainTip entryType => entryType = entry.entryType →
    ∃ tip, result = .ok (.chainTip tip) ∧ entry.chainPosition ≤ tip.chainPosition ∧
      (tip.chainPosition = entry.chainPosition →
        tip.entryId = entry.entryId ∧ tip.entryHash = entry.entryHash)

theorem mem_emptyToNone : s ∈ emptyToNone value ↔ value ≠ "" ∧ s = value := by
  unfold emptyToNone
  split
  case isTrue h  => simp [h]
  case isFalse h => simp [h, eq_comm]

-- A filter that is left out stands for every value.
theorem eq_of_mem_emptyToNone (h : value = "" ∨ value = field) (hs : s ∈ emptyToNone value) :
    field = s := by
  obtain ⟨hn, rfl⟩ := mem_emptyToNone.mp hs
  exact (h.resolve_left hn).symm

theorem of_mem_unless_zero {P : Int → Prop} {ts bound : Int} (h : bound = 0 ∨ P bound)
    (ht : ts ∈ if bound = 0 then none else some bound) : P ts := by
  split at ht
  case isTrue     => cases ht
  case isFalse hn => cases ht; exact h.resolve_left hn

section Messages

variable {e : LedgerEntryRecord} {request request' : WriteEntryRequest}

theorem passes_of_selects {request : QueryEntriesRequest} (h : Selects request e.toMessage) :
    request.toInput.Passes e := by
  refine ⟨fun t ht => ?_, fun a ha => ?_, fun s hs => ?_, fun c hc => ?_, fun ts hx => ?_,
    fun ts hx => ?_⟩
  case refine_1 => exact eq_of_mem_emptyToNone h.entryType ht
  case refine_2 => exact eq_of_mem_emptyToNone h.agentId ha
  case refine_3 => exact eq_of_mem_emptyToNone h.sourceId hs
  case refine_4 =>
    have hv : e.correlationId.getD "" = c := eq_of_mem_emptyToNone h.correlationId hc
    have hn : c ≠ "" := (mem_emptyToNone.mp hc).right ▸ (mem_emptyToNone.mp hc).left
    cases hx : e.correlationId
    case none   => exact absurd (hv.symm.trans (by rw [hx]; rfl)) hn
    case some d => rw [hx] at hv; exact congrArg some hv
  case refine_5 => exact of_mem_unless_zero (P := (· ≤ e.toMessage.writtenTs)) h.fromTs hx
  case refine_6 => exact of_mem_unless_zero (P := (e.toMessage.writtenTs ≤ ·)) h.toTs hx

theorem parseUuid_of_denotes (h : Denotes raw e.toMessage) : parseUuid raw = .ok e.entryId := by
  have ht : Uuid.ofText? raw = some e.entryId := h.trans (Uuid.ofText?_toText e.entryId)
  rw [parseUuid, ht]

theorem parseBound_of_denotes (h : raw = "" ∨ Denotes raw e.toMessage) :
    ∃ bound : Option LedgerEntryRecord, (∀ x ∈ bound, x = e) ∧
      parseBound raw = .ok (bound.map (·.entryId)) := by
  by_cases hr : raw = ""
  case pos => exact ⟨none, by simp, if_pos hr⟩
  case neg =>
    refine ⟨some e, fun x hx => (Option.some.inj hx).symm, ?_⟩
    rw [parseBound, if_neg hr, parseUuid_of_denotes (h.resolve_left hr)]
    rfl

end Messages

section Thread

variable [Sha256] [Database] [DecidableEq ι] [DecidableEq π] [DecidableEq κ] {config : AppConfig}
variable {writes : ι → WriteEntryRequest} {process : ι → π} {reads : κ → Read}
variable {hf : ∀ i, Cluster.FitsColumns (writes i).toInput}
variable {s : Interleaving.State ι (Cluster.Shared ι π) Cluster.Pc} {e : LedgerEntryRecord}

-- What is known about a call that has begun after the entry was written.
def Confirmed (e : LedgerEntryRecord) (call : Read) : Thread → Prop
  | .start                 => True
  | .linking entryId entry =>
    (∃ raw, call = .verifyEntry raw ∧ parseUuid raw = .ok entryId) ∧ entry.chainPosition ≠ 1 ∧
      (entryId = e.entryId → entry = e)
  | .returned result       => Confirms e.toMessage result call

variable (h : Cluster.Sound config process hf s) (he : e ∈ s.shared.db.committed.ledgerEntries)

include h he

theorem confirmed_verifyEntry (raw : String) :
    Confirmed e (.verifyEntry raw)
      (Read.start config s.shared.db.committed found (.verifyEntry raw)) := by
  simp only [Read.start]
  split
  case h_1 status hp =>
    intro hd
    cases hp.symm.trans (parseUuid_of_denotes hd)
  case h_2 entryId hp =>
    have found : entryId = e.entryId →
        answer (s.shared.db.committed.getEntry entryId) = .ok e := by
      rintro rfl
      rw [h.getEntry_of_mem he]
      rfl
    have denoted : Denotes raw e.toMessage → entryId = e.entryId := fun hd =>
      Except.ok.inj (hp.symm.trans (parseUuid_of_denotes hd))
    split
    case h_1 status hx =>
      intro hd
      cases hx.symm.trans (found (denoted hd))
    case h_2 entry hx =>
      unfold checkLink
      split
      case isFalse hn =>
        exact ⟨⟨raw, rfl, hp⟩, hn, fun hi => Except.ok.inj (hx.symm.trans (found hi))⟩
      case isTrue hn =>
        intro hd
        cases denoted hd
        cases hx.symm.trans (found rfl)
        rw [(h.verified_of_mem he).left hn]
        rfl

theorem confirmed_start (hq : PostgresClient.QueryEntries s.shared.db.committed found) (call : Read) :
    Confirmed e call (call.start config s.shared.db.committed found) := by
  cases call
  case verifyEntry raw => exact confirmed_verifyEntry h he raw
  case getEntry raw =>
    intro hd
    rw [parseUuid_of_denotes hd]
    simp only [bind, Except.bind, h.getEntry_of_mem he, answer, Except.mapError, pure, Except.pure]
  case queryEntries request =>
    intro hs ht
    have ht : request.toInput.pageToken = none := by simp [QueryEntriesRequest.toInput, emptyToNone, ht]
    obtain ⟨output, ho, hp⟩ := queryEntries_of_mem (hq.left.mem_iff.mpr he) (passes_of_selects hs) ht
    rw [ho]
    exact ⟨output.toResponse, rfl, fun hn => List.mem_map_of_mem (hp hn)⟩
  case verifyChain request =>
    intro ht hs hl
    obtain ⟨first, hb, hs⟩ := parseBound_of_denotes hs
    obtain ⟨last, hd, hl⟩ := parseBound_of_denotes hl
    obtain ⟨n, hn, hc⟩ := h.checkChain_of_mem he hb hd
    have hr : required request.entryType = .ok () := if_neg (ht ▸ (h.origin e he).left.nonempty)
    have ht : request.entryType = e.entryType := ht
    refine ⟨n, hn, ?_⟩
    rw [hr, hs, hl, ht]
    simp only [bind, Except.bind, hc, Except.mapError, pure, Except.pure]
    rfl
  case getChainTip entryType =>
    rintro rfl
    obtain ⟨last, ht, hp, hx⟩ := h.getChainTip_of_mem he
    have hr : required e.toMessage.entryType = .ok () := if_neg (h.origin e he).left.nonempty
    have ht : PostgresClient.getChainTip s.shared.db.committed e.toMessage.entryType = .ok last.toTip := ht
    refine ⟨last.toTip.toResponse, ?_, hp, fun hl => ?_⟩
    case refine_1 =>
      rw [hr]
      simp only [bind, Except.bind, ht, answer, Except.mapError, pure, Except.pure]
    case refine_2 =>
      cases hx hl
      exact ⟨rfl, rfl⟩

theorem Confirmed.step (hq : PostgresClient.QueryEntries s.shared.db.committed found)
    (hc : Confirmed e call thread) :
    Confirmed e call (call.step config s.shared.db.committed found thread) := by
  cases thread
  case start    => exact confirmed_start h he hq call
  case returned => exact hc
  case linking entryId entry =>
    obtain ⟨⟨raw, rfl, hp⟩, hn, hx⟩ := hc
    intro hd
    cases Except.ok.inj (hp.symm.trans (parseUuid_of_denotes hd))
    cases hx rfl
    rw [h.getEntriesByType_of_mem he]
    simp only [answer, Except.mapError, bind, Except.bind, pure, Except.pure,
      (h.verified_of_mem he).right hn]
    rfl

end Thread

section Run

variable [Sha256] [Database] [DecidableEq ι] [DecidableEq π] [DecidableEq κ] {config : AppConfig}
variable {writes : ι → WriteEntryRequest} {process : ι → π} {reads : κ → Read}
variable {s s₁ s₂ : State ι π κ} {i : ι} {e : LedgerEntryRecord}

def AfterEpoch : Transition.Guard (State ι π κ) (Event ι κ)
  | _, .write _ env => Sql.epoch ≤ env.now
  | _, .read _ _    => True

end Run

namespace Sample

open Transition
open scoped Sha256.Standard Transactions.Sample

def request (_ : Unit) : WriteEntryRequest where
  entryType      := "ACTION_RECEIPT"
  agentId        := "agent"
  content        := [1]
  contentType    := "application/json"
  sourceId       := "source"
  correlationId  := ""
  idempotencyKey := "key"

-- One of the calls writes the identifier in braces.
def lookups (braced : Bool) : Read :=
  bif braced then .verifyEntry "\x7b00000000-0000-0000-0000-000000000002\x7d"
  else .getEntry "00000000-0000-0000-0000-000000000002"

abbrev deployed : System (State Unit Unit Bool) (Event Unit Bool) :=
  system Cluster.Sample.config id request lookups

def writing : List (Event Unit Bool) :=
  .replicate 9 (.write () { now := 1700000000000000000, eventId := 1, newIds := ⟨2, 3⟩ })

def written : State Unit Unit Bool := exec deployed (opened Unit Unit Bool) writing

def reading : List (Event Unit Bool) :=
  [.read false written.ledger.shared.db.committed.ledgerEntries,
    .read true written.ledger.shared.db.committed.ledgerEntries]

def read : State Unit Unit Bool := exec deployed written reading

def result (braced : Bool) : Except Rpc.Status Response :=
  match read.reads braced with
  | .returned result => result
  | _                => .error ⟨.unknown, ""⟩

instance (s : State ι π κ) : (e : Event ι κ) → Decidable (AfterEpoch s e)
  | .write _ env => inferInstanceAs <| Decidable (Sql.epoch ≤ env.now)
  | .read _ _    => .isTrue trivial

def writtenRun : Run deployed AfterEpoch (opened Unit Unit Bool) written :=
  .ofSchedule writing (by decide +kernel)

end Sample

end Grpc

end Ledger
