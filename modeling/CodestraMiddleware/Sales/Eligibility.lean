import CodestraMiddleware.Sales.Service

/-!
# Who may be contacted

A resolution that allows outreach rests on a lookup that clears the candidate: on the lookup of the
call itself, or, for a replay, on that of an earlier call under the same key.
-/
namespace CodestraMiddleware.Sales

open Raising Transition List Findings
open AiJobs (UUID)

variable (rt : Runtime) (policy : MatchPolicy)

/-! ## Cleared candidates -/

/-- Nothing in a lookup stands against contacting the candidate. -/
structure Cleared (candidate : LeadCandidate) (found : OdooLookup) : Prop where
  compliant : ∃ snapshot, found.compliance = some snapshot ∧ snapshot.Clears candidate.tenantId
    candidate.campaignId
  unmatched : ∃ company, bestCompany rt.lib candidate found.companies = .ok company ∧
    (∀ c ∈ found.companies, c.tenantId = candidate.tenantId →
      ∃ m, companyMatch rt.lib candidate c = .ok m ∧ m.score < policy.reviewThreshold) ∧
    ∀ c ∈ found.contacts, c.tenantId = candidate.tenantId →
      ∃ m, contactMatch rt.lib candidate c company = .ok m ∧ m.score < policy.reviewThreshold

variable {rt policy}

variable {f : Findings}

theorem Findings.below_of_accepted (accepted : f.decision policy = .accepted) :
    f.highest < policy.reviewThreshold := by
  unfold decision at accepted
  split at accepted
  · cases accepted
  · split at accepted
    · cases accepted
    · split at accepted
      · cases accepted
      · exact Nat.lt_of_not_le ‹_›

theorem findings_cleared (made : findings rt candidate found = .ok f)
    (accepted : f.decision policy = .accepted)
    (unblocked : f.compliance.blocked = false) (unreviewed : f.compliance.reviewRequired = false) :
    Cleared rt policy candidate found := by
  obtain ⟨company, companies, made⟩ := bind_eq_ok.mp made
  obtain ⟨_, contacts, made⟩ := bind_eq_ok.mp made
  cases made
  have below := below_of_accepted accepted
  simp only [highest, Nat.max_lt] at below
  have clears := (ComplianceSnapshot.evaluate_clear_iff _).mp ⟨unblocked, unreviewed⟩
  refine ⟨?_, company, companies, fun c listed _ => ?_, fun c listed _ => ?_⟩
  · cases compliance : found.compliance with
    | none =>
      rw [compliance] at clears
      cases clears.available
    | some snapshot => exact ⟨snapshot, rfl, by simpa [compliance] using clears⟩
  · obtain ⟨m, matched, least⟩ := le_best_of_mapM companies c listed
    exact ⟨m, matched, Nat.lt_of_le_of_lt least below.1⟩
  · obtain ⟨m, matched, least⟩ := le_best_of_mapM contacts c listed
    exact ⟨m, matched, Nat.lt_of_le_of_lt least below.2⟩

/-! ## Sound resolutions -/

variable (rt policy) in
/-- What a resolution that allows outreach rests on, in view of what has happened. -/
def Sound (log : List Note) (call : ResolveCall) (resolution : LeadResolution) : Basis → Prop
  | .lookup found => Cleared rt policy call.candidate found
  | .unavailable => False
  | .replay => ∃ earlier found, .resolved earlier resolution (.lookup found) ∈ log ∧
      earlier.scope rt = call.scope rt ∧
      rt.candidateHash earlier.candidate = rt.candidateHash call.candidate ∧
      Cleared rt policy earlier.candidate found

variable {resolution : LeadResolution} {log : List Note} {basis : Basis}

theorem Sound.mono (sound : Sound rt policy log call resolution basis) (kept : log ⊆ log') :
    Sound rt policy log' call resolution basis := by
  cases basis with
  | lookup found | unavailable => exact sound
  | replay =>
    obtain ⟨earlier, found, there, rest⟩ := sound
    exact ⟨earlier, found, kept there, rest⟩

variable (rt policy) in
def SoundEntries (entries : Scope → Option (IdempotencyEntry LeadResolution))
    (log : List Note) : Prop :=
  ∀ call prior, entries (call.scope rt) = some prior →
    prior.payloadHash = rt.candidateHash call.candidate → prior.result.eligibleForOutreach = true →
    Sound rt policy log call prior.result .replay

theorem SoundEntries.mono (sound : SoundEntries rt policy entries log) (kept : log ⊆ log') :
    SoundEntries rt policy entries log' :=
  fun call prior stored same eligible => (sound call prior stored same eligible).mono kept

variable {s : Service}

theorem SoundEntries.store (sound : SoundEntries rt policy s.resolveEntries log)
    (rests : resolution.eligibleForOutreach = true →
      ∃ found, .resolved call resolution (.lookup found) ∈ log ∧
      Cleared rt policy call.candidate found)
    (reviews : List DuplicateReview) :
    SoundEntries rt policy (s.store rt call resolution reviews).resolveEntries log := by
  intro call' prior stored same eligible
  simp only [Service.store, Function.update_apply] at stored
  split at stored
  next here =>
    cases stored
    obtain ⟨found, noted, cleared⟩ := rests eligible
    exact ⟨call, found, noted, here.symm, same, cleared⟩
  next => exact sound call' prior stored same eligible

theorem Returns.sound (returns : Returns rt policy call s resolution basis s')
    (sound : SoundEntries rt policy s.resolveEntries log)
    (noted : .resolved call resolution basis ∈ log) :
    (resolution.eligibleForOutreach = true → Sound rt policy log call resolution basis) ∧
      SoundEntries rt policy s'.resolveEntries log := by
  cases returns with
  | replayed stored same => exact ⟨sound call _ stored same, sound⟩
  | unavailable =>
    exact ⟨(absurd · Bool.false_ne_true), sound.store (absurd · Bool.false_ne_true) []⟩
  | @resolved candidateId reviewId found f made =>
    have cleared (eligible : (f.resolution rt policy call candidateId).eligibleForOutreach = true) :
        Cleared rt policy call.candidate found := by
      simp only [Findings.resolution, Bool.and_eq_true, decide_eq_true_eq,
        Bool.not_eq_true'] at eligible
      exact findings_cleared made eligible.1.1 eligible.1.2 eligible.2
    exact ⟨cleared, sound.store (fun eligible => ⟨found, noted, cleared eligible⟩) _⟩

def Note.resolution? : Note → Option (ResolveCall × LeadResolution × Basis)
  | .resolved call resolution basis => some (call, resolution, basis)
  | _ => none

theorem mem_resolutions {notes : List Note} :
    (call, resolution, basis) ∈ notes.filterMap Note.resolution? ↔
    .resolved call resolution basis ∈ notes := by
  rw [mem_filterMap]
  constructor
  · rintro ⟨note, member, read⟩
    cases note with
    | resolved => cases read; exact member
    | _ => cases read
  · exact fun member => ⟨_, member, rfl⟩

variable (rt policy) in
/-- What a task does as far as `resolve` is concerned: at most one call returns, and nothing else is
stored. -/
inductive Resolves (s : Service) (r : Reaction) : Prop
  | nothing (same : r.service.resolveEntries = s.resolveEntries)
      (quiet : r.notes.filterMap Note.resolution? = [])
  | one {call : ResolveCall} {resolution : LeadResolution} {basis : Basis} {s' : Service}
      (returns : Returns rt policy call s resolution basis s')
      (same : r.service.resolveEntries = s'.resolveEntries)
      (noted : r.notes.filterMap Note.resolution? = [(call, resolution, basis)])

variable {ω : Type} {port : OdooReadOnlyPort ω}

theorem enterCreate_resolves (call : CreateCall) (jobId : UUID) (s : Service) :
    Resolves rt policy s (enterCreate rt call jobId s) := by
  unfold enterCreate
  split
  · split <;> exact .nothing rfl rfl
  · exact .nothing rfl rfl

theorem enterPage_resolves (call : CreateCall) (jobId : UUID) (page : Fallible (List LeadCandidate))
    (s : Service) : Resolves rt policy s (enterPage call jobId page s) := by
  unfold enterPage
  split
  · split <;> exact .nothing rfl rfl
  next candidates =>
    cases candidates with
    | nil => exact .nothing rfl rfl
    | cons =>
      rw [advance_cons]
      exact .nothing rfl rfl

theorem counts_resolves (returns : Returns rt policy resolve s resolution basis s')
    (call : CreateCall) (jobId : UUID)
    (rest : List LeadCandidate) :
    Resolves rt policy s (counts call jobId resolve rest resolution basis s') := by
  unfold counts
  cases rest with
  | nil => exact .one returns rfl rfl
  | cons =>
    rw [advance_cons]
    exact .one returns rfl rfl

theorem react_resolves (s : Service) (e : TaskEvent ω) (task : Task) :
    Resolves rt policy s (task.react rt policy port s e) := by
  unfold Task.react
  split
  next => split <;> exact .nothing rfl rfl
  next =>
    split
    · exact .nothing rfl rfl
    · exact .one (resumeResolve_returns rt policy port ‹_›) rfl rfl
    · exact .nothing rfl rfl
  next => exact .nothing rfl rfl
  next => exact enterCreate_resolves _ _ s
  next => exact .nothing rfl rfl
  next => exact enterPage_resolves _ _ _ s
  next => exact .nothing rfl rfl
  next =>
    split
    · exact .nothing rfl rfl
    · exact counts_resolves (resumeResolve_returns rt policy port ‹_›) _ _ _
    · exact .nothing rfl rfl
  next => exact .nothing rfl rfl

variable (rt policy) in
def SoundSoFar {ι : Type} (s : State ι) : Prop :=
  SoundEntries rt policy s.service.resolveEntries s.log ∧ ∀ call resolution basis, .resolved call
    resolution basis ∈ s.log →
      resolution.eligibleForOutreach = true → Sound rt policy s.log call resolution basis

theorem Resolves.soundSoFar {s : State ι} {tasks : ι → Task}
    (resolves : Resolves rt policy s.service r) (soFar : SoundSoFar rt policy s) :
    SoundSoFar rt policy ⟨r.service, tasks, r.notes ++ s.log⟩ := by
  obtain ⟨entries, before⟩ := soFar
  have kept : s.log ⊆ r.notes ++ s.log := subset_append_right _ _
  replace before call resolution basis there eligible :=
    (before call resolution basis there eligible).mono kept
  cases resolves with
  | nothing same quiet =>
    refine ⟨same ▸ entries.mono kept, fun call resolution basis there => ?_⟩
    rcases mem_append.mp there with new | old
    · rw [← mem_resolutions, quiet] at new
      cases new
    · exact before call resolution basis old
  | @one call resolution basis s' returns same noted =>
    have there : .resolved call resolution basis ∈ r.notes ++ s.log := by
      rw [mem_append, ← mem_resolutions, noted]
      exact .inl (mem_singleton_self _)
    obtain ⟨sound, stored⟩ := returns.sound (entries.mono kept) there
    refine ⟨same ▸ stored, fun call' resolution' basis' there' => ?_⟩
    rcases mem_append.mp there' with new | old
    · rw [← mem_resolutions, noted, mem_singleton] at new
      cases new
      exact sound
    · exact before call' resolution' basis' old

theorem step_soundSoFar [DecidableEq ι] (s : State ι) (e : Event ι ω)
    (soFar : SoundSoFar rt policy s) : SoundSoFar rt policy (step rt policy port s e) := by
  cases e with
  | task i e => exact (react_resolves s.service e (s.tasks i)).soundSoFar soFar
  | cancelJob jobId tenantId =>
    rcases step_cancelJob rt policy port s jobId tenantId with same | changed
    · rw [same]
      exact soFar
    · rw [changed]
      exact soFar

theorem after_soundSoFar [DecidableEq ι] (es : List (Event ι ω)) :
    SoundSoFar rt policy ((system rt policy port).after (.initial ι) es) := by
  have start : SoundSoFar rt policy (.initial ι) := by
    refine ⟨fun _ _ stored => ?_, fun _ _ _ there => ?_⟩
    · cases stored
    · cases there
  exact System.after_related (S := system rt policy port)
    (R := fun s s' => SoundSoFar rt policy s → SoundSoFar rt policy s') (fun _ => id)
    (fun _ _ _ first rest => rest ∘ first) step_soundSoFar _ es start

/-! ## Records of other tenants -/

/-- Two lookups that differ at most in the records of other tenants. -/
structure Agree (tenantId : String) (found found' : OdooLookup) : Prop where
  companies : (found.companies.filter fun c => decide (tenantId = c.tenantId)) =
    found'.companies.filter fun c => decide (tenantId = c.tenantId)
  contacts : (found.contacts.filter fun c => decide (tenantId = c.tenantId)) =
    found'.contacts.filter fun c => decide (tenantId = c.tenantId)
  compliance : found.compliance = found'.compliance

def LeadResolution.lessReasons (r : LeadResolution) : LeadResolution :=
  { r with
    companyResolution := { r.companyResolution with reasons := [] }
    contactResolution := { r.contactResolution with reasons := [] } }

def Findings.identified (f : Findings) : (Nat × Option String) × (Nat × Option String) ×
    ComplianceDecision :=
  (f.company.identified, f.contact.identified, f.compliance)

theorem findings_identified (agree : Agree candidate.tenantId found found') :
      identified <$> findings rt candidate found = identified <$> findings rt candidate found' := by
  have companies : Match.identified <$> bestCompany rt.lib candidate found.companies =
      Match.identified <$> bestCompany rt.lib candidate found'.companies := by
    rw [bestCompany_own, agree.companies, ← bestCompany_own]
  have contacts (company : Match) : Match.identified <$> bestContact rt.lib candidate
    found.contacts company =
        Match.identified <$> bestContact rt.lib candidate found'.contacts company := by
    rw [bestContact_own, agree.contacts, ← bestContact_own]
  unfold findings
  simp only [map_bind, ← agree.compliance]
  refine bind_congr_of_map companies fun company company' alike => ?_
  rw [bestContact_congr rt.lib (congrArg Prod.fst alike) candidate found.contacts]
  refine bind_congr_of_map (contacts company') fun contact contact' alike' => ?_
  simp [identified, alike, alike']

variable (rt policy port) in
/-- Whatever `resolve` returns as eligible for outreach rests on a lookup that cleared it, and the
records of other tenants decide nothing. -/
theorem outreach_cleared (ι : Type) [DecidableEq ι] :
    (∀ (es : List (Event ι ω)) (call : ResolveCall) (resolution : LeadResolution) (basis : Basis),
      .resolved call resolution basis ∈ ((system rt policy port).after (.initial ι) es).log →
      resolution.eligibleForOutreach = true →
      Sound rt policy ((system rt policy port).after (.initial ι) es).log call resolution basis) ∧
    ∀ (call : ResolveCall) (candidateId reviewId : UUID) (found found' : OdooLookup) (s : Service),
      Agree call.candidate.tenantId found found' →
      (·.1.lessReasons) <$> finishResolve rt policy call candidateId reviewId (.ok found) s =
        (·.1.lessReasons) <$> finishResolve rt policy call candidateId reviewId (.ok found') s := by
  refine ⟨fun es => (after_soundSoFar es).2,
    fun call candidateId reviewId found found' s agree => ?_⟩
  unfold finishResolve
  simp only [map_bind]
  refine bind_congr_of_map (findings_identified agree) fun f f' same => ?_
  obtain ⟨⟨_, _, _⟩, ⟨_, _, _⟩, _⟩ := f'
  cases same
  rfl

namespace Sample

def odoo : OdooReadOnlyPort OdooLookup where
  lookup _ _ found := .ok found
  verificationPage _ _ _ _ _ := .ok []

def lookup : OdooLookup where
  companies := [⟨"C-1", "tenant-a", "Beta", none, none, "DO", none, none, none, none⟩,
    ⟨"C-2", "tenant-b", "Acme", none, none, "DO", none, none, none, none⟩]
  contacts := []
  compliance := some (snapshot "tenant-a")

def call : ResolveCall := ⟨candidate "tenant-a" "Acme", "0123456789abcdef", "correlation-1"⟩

def resolving : List (Event Unit OdooLookup) :=
  [.task () (.resolve call), .task () (.acquire 1), .task () (.answer (.world lookup) 2)]

end Sample

open Sample

theorem unmatched_candidate_eligible : ∃ resolution, .resolved call resolution (.lookup lookup) ∈
        ((system runtime {} odoo).after (.initial Unit) resolving).log ∧
      resolution.eligibleForOutreach = true ∧ Cleared runtime {} call.candidate lookup := by
  refine ⟨_, mem_cons_self, rfl, ?_⟩
  exact (outreach_cleared runtime {} odoo Unit).1 resolving call _ (.lookup lookup)
    mem_cons_self rfl

end CodestraMiddleware.Sales
