import AreFoundation.OpaIntegration.Theorems.Transparency

open EcmaScript

namespace OpaIntegration

namespace Query

variable {q q' : Query}

def versions (q : Query) : List (String × String) :=
  q.selected.map fun b => (b.bundleName, b.version)

def envelopeId (q : Query) : String :=
  q.request.context.admissionEnvelope.elim "none" (·.envelopeId)

-- The metadata in the order of its keys.
def metadata (q : Query) : List (String × String) :=
  (sort q.request.context.actionMetadata.keys).map fun k =>
    (k, (q.request.context.actionMetadata.get? k).getD "")

def versionTexts (q : Query) : List String :=
  q.versions.map fun nv => nv.1 ++ ":" ++ nv.2

def metadataTexts (q : Query) : List String :=
  q.metadata.map fun kv => kv.1 ++ "=" ++ kv.2

def keyFields (q : Query) : List String := [
  q.request.agentId, q.request.actionClass, q.request.resource, q.request.context.passportId,
  join "," <| sort q.versionTexts, q.envelopeId, join "&" q.metadataTexts]

theorem keyText_eq_join (q : Query) : q.keyText = join "|" q.keyFields := by
  simp only [keyText, OpaIntegrationService.keyText, OpaIntegrationService.flattenMetadata, join,
    String.append_assoc, versions, versionTexts, envelopeId, metadata, metadataTexts, keyFields,
    List.map_map, Function.comp_def]

theorem mem_metadata : (k, v) ∈ q.metadata ↔ (k, v) ∈ q.request.context.actionMetadata := by
  simp only [metadata, List.mem_map, (sort_perm _).mem_iff, OrderedMap.mem_keys, Prod.mk.injEq]
  constructor
  case mp =>
    rintro ⟨k, ⟨v', hm⟩, rfl, rfl⟩
    simpa [OrderedMap.get?_eq_some_iff.mpr hm] using hm
  case mpr =>
    intro hm
    exact ⟨k, ⟨v, hm⟩, rfl, by simp [OrderedMap.get?_eq_some_iff.mpr hm]⟩

-- The texts of a query contain none of the characters that delimit them in the cache key.
structure Delimited (q : Query) : Prop where
  actor    : '|' ∉ q.request.agentId.toList ∧ '|' ∉ q.request.context.passportId.toList
  action   : '|' ∉ q.request.actionClass.toList ∧ '|' ∉ q.request.resource.toList
  versions : ∀ s ∈ q.versionTexts, ',' ∉ s.toList ∧ '|' ∉ s.toList
  names    : ∀ nv ∈ q.versions, ':' ∉ nv.1.toList
  envelope : ∀ env ∈ q.request.context.admissionEnvelope,
               env.envelopeId ≠ "none" ∧ '|' ∉ env.envelopeId.toList
  metadata : ∀ s ∈ q.metadataTexts, '&' ∉ s.toList ∧ '|' ∉ s.toList
  keys     : ∀ kv ∈ q.metadata, '=' ∉ kv.1.toList

namespace Delimited

theorem envelopeId_plain (h : q.Delimited) : '|' ∉ q.envelopeId.toList := by
  unfold envelopeId
  cases he : q.request.context.admissionEnvelope
  case none => decide
  case some => exact (h.envelope _ he).right

theorem keyFields_plain (h : q.Delimited) : ∀ s ∈ q.keyFields, '|' ∉ s.toList := by
  have hv : ∀ s ∈ sort q.versionTexts, '|' ∉ s.toList :=
    fun s hs => (h.versions s <| (sort_perm _).mem_iff.mp hs).right
  simp only [keyFields, List.forall_mem_cons]
  exact ⟨h.actor.left, h.action.left, h.action.right, h.actor.right, not_mem_join (by decide) hv,
    h.envelopeId_plain, not_mem_join (by decide) fun s hs => (h.metadata s hs).right, nofun⟩

theorem versions_perm (h : q.Delimited) (h' : q'.Delimited)
    (he : join "," (sort q.versionTexts) = join "," (sort q'.versionTexts)) :
    q.versions.Perm q'.versions := by
  have plain : ∀ {q : Query}, q.Delimited → ∀ s ∈ sort q.versionTexts, s ≠ "" ∧ ',' ∉ s.toList := by
    intro q h s hs
    have hs := (sort_perm _).mem_iff.mp hs
    refine ⟨?_, (h.versions s hs).left⟩
    have ⟨nv, _, he⟩ := List.mem_map.mp hs
    exact he ▸ append_separator_ne_empty
  have hs := eq_of_join_eq_of_ne_empty (plain h) (plain h') he
  have hp : q.versionTexts.Perm q'.versionTexts := (sort_perm _).symm.trans (hs ▸ sort_perm _)
  have hm := hp.map (unpair ':')
  rwa [versionTexts, versionTexts, map_unpair h.names, map_unpair h'.names] at hm

theorem metadata_eq (h : q.Delimited) (h' : q'.Delimited)
    (he : join "&" q.metadataTexts = join "&" q'.metadataTexts) : q.metadata = q'.metadata := by
  have plain : ∀ {q : Query}, q.Delimited → ∀ s ∈ q.metadataTexts, s ≠ "" ∧ '&' ∉ s.toList := by
    intro q h s hs
    refine ⟨?_, (h.metadata s hs).left⟩
    have ⟨kv, _, he⟩ := List.mem_map.mp hs
    exact he ▸ append_separator_ne_empty
  have hm := congrArg (List.map (unpair '=')) <| eq_of_join_eq_of_ne_empty (plain h) (plain h') he
  rwa [metadataTexts, metadataTexts, map_unpair h.keys, map_unpair h'.keys] at hm

end Delimited

-- Envelopes with the same identifier admit the same.
def EnvelopesAgree (q q' : Query) : Prop :=
  ∀ env ∈ q.request.context.admissionEnvelope, ∀ env' ∈ q'.request.context.admissionEnvelope,
    env.envelopeId = env'.envelopeId → env.admittedScopes = env'.admittedScopes ∧
      env.admittedBehavioralCaps = env'.admittedBehavioralCaps

theorem Delimited.envelope_eq (h : q.Delimited) (h' : q'.Delimited) (ha : q.EnvelopesAgree q')
    (he : q.envelopeId = q'.envelopeId) :
    q.request.context.admissionEnvelope.map
        (fun env => (env.admittedScopes, env.admittedBehavioralCaps)) =
      q'.request.context.admissionEnvelope.map
        (fun env => (env.admittedScopes, env.admittedBehavioralCaps)) := by
  have hne := h.envelope
  have hne' := h'.envelope
  unfold EnvelopesAgree at ha
  unfold envelopeId at he
  cases hq : q.request.context.admissionEnvelope <;>
    cases hq' : q'.request.context.admissionEnvelope
  all_goals simp_all

theorem Delimited.sameQuestion (h : q.Delimited) (h' : q'.Delimited) (ha : q.EnvelopesAgree q')
    (hk : q.keyText = q'.keyText) : q.SameQuestion q' := by
  rw [keyText_eq_join, keyText_eq_join] at hk
  have hf := eq_of_join_eq (by simp [keyFields]) (by simp [keyFields]) h.keyFields_plain
    h'.keyFields_plain hk
  simp only [keyFields, List.cons.injEq, and_true] at hf
  have ⟨_, hc, hr, _, hv, he, hm⟩ := hf
  have hm := h.metadata_eq h' hm
  exact {
    actionClass := hc
    resource    := hr
    metadata k  := by
      ext v
      rw [OrderedMap.get?_eq_some_iff, OrderedMap.get?_eq_some_iff, ← mem_metadata, ← mem_metadata,
        hm]
    envelope    := h.envelope_eq h' ha he
    versions    := h.versions_perm h' hv }

end Query

theorem separated_of_delimited {A : Set Query} (h : ∀ q ∈ A, q.Delimited)
    (ha : ∀ q ∈ A, ∀ q' ∈ A, q.EnvelopesAgree q') : Separated A :=
  fun q hq q' hq' => (h q hq).sameQuestion (h q' hq') (ha q hq q' hq')

end OpaIntegration
