import CodestraMiddleware.Foundations.Selection
import CodestraMiddleware.Sales.Normalization

/-!
# Matching against Odoo

`sales/identity.py`. A record of another tenant is denied before anything of it is looked at.
-/
namespace CodestraMiddleware.Sales

open Raising Selection

structure OdooCompany where
  (publicId tenantId name : String)
  (legalName registrationNumber : Option String)
  countryCode : String
  (domain city region addressLine1 : Option String)

structure OdooContact where
  (publicId tenantId fullName : String)
  (businessEmail businessPhone countryCode title : Option String)

structure Match where
  score : Nat := 0
  publicId : Option String := none
  reasons : List String := []

structure MatchPolicy where
  exactThreshold : Nat := 90
  reviewThreshold : Nat := 70
  version : String := "codestra.sales.identity.v1"

def Match.crossTenantDenied : Match := { reasons := ["CROSS_TENANT_DENIED"] }

def sameText (a b : Option String) : Bool := (truthy? a).isSome && truthy? a = truthy? b

variable (lib : Library)

def nameMatch (incoming : Company) (company : OdooCompany) : Match :=
  let incomingName := lib.normalizedCompanyName ((truthy? incoming.legalName).getD incoming.name)
  let existingName := lib.normalizedCompanyName ((truthy? company.legalName).getD company.name)
  let addressExact := sameText (some (lib.normalizedAddressComponent incoming.address.line1))
    (some (lib.normalizedAddressComponent company.addressLine1))
  if incomingName = existingName ∧ addressExact ∧ incoming.countryCode = company.countryCode then
    ⟨90, some company.publicId, ["LEGAL_NAME_ADDRESS_EXACT"]⟩
  else
    let similarity := lib.similarity incomingName existingName
    let samePlace (incoming existing : Option String) : Bool := (truthy? incoming).isSome &&
      lib.normalizedAddressComponent incoming = lib.normalizedAddressComponent existing
    let locationMatches := (decide (incoming.countryCode = company.countryCode)).toNat +
      (samePlace incoming.address.city company.city).toNat +
      (samePlace incoming.address.region company.region).toNat
    if 88 ≤ similarity ∧ 2 ≤ locationMatches then
      ⟨min 89 (75 + locationMatches * 4), some company.publicId, ["COMPANY_NAME_LOCATION_STRONG"]⟩
    else if 75 ≤ similarity then
      ⟨min 79 similarity, some company.publicId, ["COMPANY_NAME_FUZZY_REVIEW"]⟩
    else {}

section

variable (candidate : LeadCandidate)

def companyMatch (company : OdooCompany) : Fallible Match :=
  let incoming := candidate.company
  if candidate.tenantId ≠ company.tenantId then .ok .crossTenantDenied
  else if (truthy? incoming.registrationNumber).isSome ∧
      (truthy? company.registrationNumber).isSome ∧ incoming.countryCode = company.countryCode ∧
      incoming.registrationNumber.map lib.casefold = company.registrationNumber.map
      lib.casefold then
    .ok ⟨100, some company.publicId, ["REGISTRATION_JURISDICTION_EXACT"]⟩
  else do
    let incomingDomain ← lib.registrableDomain ((truthy? incoming.domain).or incoming.websiteUrl)
    let existingDomain ← lib.registrableDomain company.domain
    return if sameText incomingDomain existingDomain then
      ⟨95, some company.publicId, ["ROOT_DOMAIN_EXACT"]⟩
    else nameMatch lib incoming company

section

variable (incoming : Contact) (contact : OdooContact)

def personSimilarity : Nat :=
  let incomingName := lib.normalizedPersonName ((truthy? incoming.fullName).or
    (some (" ".intercalate ([incoming.firstName, incoming.lastName].filterMap truthy?))))
  let existingName := lib.normalizedPersonName (some contact.fullName)
  if incomingName = "" then 0 else lib.similarity incomingName existingName

def personMatch (company : Match) : Match :=
  let similarity := personSimilarity lib incoming contact
  let titleCompatible := (truthy? incoming.title).isSome && (truthy? contact.title).isSome &&
    lib.normalizedPersonName incoming.title = lib.normalizedPersonName contact.title
  if similarity = 100 ∧ 90 ≤ company.score ∧ titleCompatible then
    ⟨85, some contact.publicId, ["NAME_COMPANY_TITLE_EXACT"]⟩
  else if 75 ≤ similarity then
    ⟨min 79 similarity, some contact.publicId, ["PERSON_NAME_FUZZY_REVIEW"]⟩
  else {}

def emailMatch : Fallible (Option Match) :=
  if (truthy? incoming.businessEmail).isSome ∧ (truthy? contact.businessEmail).isSome then do
    let incomingEmail ← lib.normalizedEmail incoming.businessEmail
    let existingEmail ← lib.normalizedEmail contact.businessEmail
    if incomingEmail = existingEmail then
      let role ← lib.roleEmail incoming.businessEmail
      return some (if role then ⟨75, some contact.publicId, ["ROLE_EMAIL_REVIEW_ONLY"]⟩
        else ⟨100, some contact.publicId, ["BUSINESS_EMAIL_EXACT"]⟩)
    else return none
  else return none

end

def contactMatch (contact : OdooContact) (company : Match) : Fallible Match :=
  let incoming := candidate.contact
  if candidate.tenantId ≠ contact.tenantId then .ok .crossTenantDenied
  else do
    match ← emailMatch lib incoming contact with
    | some decided => return decided
    | none =>
      let incomingPhone ← lib.normalizedPhone incoming.businessPhone incoming.countryCode
      let existingPhone ← lib.normalizedPhone contact.businessPhone contact.countryCode
      return if incomingPhone.isSome ∧ incomingPhone = existingPhone then
        if 90 ≤ company.score then ⟨95, some contact.publicId, ["E164_PHONE_COMPANY_CONFIRMED"]⟩
        else ⟨75, some contact.publicId, ["SHARED_PHONE_REVIEW_ONLY"]⟩
      else personMatch lib incoming contact company

/-! ## The best match -/

def best (found : List Match) : Match := (found.maxOn? (·.score)).getD {}

def bestCompany (values : List OdooCompany) : Fallible Match :=
  best <$> values.mapM (companyMatch lib candidate)

def bestContact (values : List OdooContact) (company : Match) : Fallible Match :=
  best <$> values.mapM (contactMatch lib candidate · company)

end

section Matches

variable {company : Match}

theorem bestContact_congr (same : company.score = company'.score) (candidate : LeadCandidate)
    (values : List OdooContact) :
    bestContact lib candidate values company = bestContact lib candidate values company' := by
  simp only [bestContact, contactMatch, personMatch, same]

variable {m : Match} {candidate : LeadCandidate} {contact : OdooContact}

variable {lib} in
theorem contactMatch_ok (matched : contactMatch lib candidate contact company = .ok m)
    (company' : Match) : ∃ m', contactMatch lib candidate contact company' = .ok m' := by
  unfold contactMatch at matched ⊢
  dsimp only at matched ⊢
  split
  next => exact ⟨_, rfl⟩
  next own =>
    rw [if_neg own] at matched
    obtain ⟨decided, email, matched⟩ := bind_eq_ok.mp matched
    rw [email]
    cases decided with
    | some m => exact ⟨_, rfl⟩
    | none =>
      obtain ⟨_, first, matched⟩ := bind_eq_ok.mp matched
      obtain ⟨_, second, -⟩ := bind_eq_ok.mp matched
      simp only [first, second]
      exact ⟨_, rfl⟩

/-! ## Matches without a score -/

def Match.Proper (m : Match) : Prop := m.score = 0 ↔ m.publicId = none

section Proper

variable {lib}

theorem nameMatch_proper (incoming : Company) (company : OdooCompany) :
    (nameMatch lib incoming company).Proper := by
  unfold nameMatch
  dsimp only
  split
  · simp [Match.Proper]
  · split
    · simp [Match.Proper]
    · split
      · simp [Match.Proper]
        omega
      · simp [Match.Proper]

theorem companyMatch_proper {company : OdooCompany}
    (matched : companyMatch lib candidate company = .ok m) : m.Proper := by
  unfold companyMatch at matched
  dsimp only at matched
  split at matched
  · cases matched
    simp [Match.Proper, Match.crossTenantDenied]
  · split at matched
    · cases matched
      simp [Match.Proper]
    · simp only [bind_eq_ok] at matched
      obtain ⟨_, -, _, -, returned⟩ := matched
      cases returned
      split
      · simp [Match.Proper]
      · exact nameMatch_proper _ _

theorem personMatch_proper (incoming : Contact) (contact : OdooContact) (company : Match) :
    (personMatch lib incoming contact company).Proper := by
  unfold personMatch
  dsimp only
  split
  · simp [Match.Proper]
  · split
    · simp [Match.Proper]
      omega
    · simp [Match.Proper]

theorem emailMatch_proper (matched : emailMatch lib incoming contact = .ok (some m)) :
    m.Proper := by
  unfold emailMatch at matched
  split at matched
  · simp only [bind_eq_ok] at matched
    obtain ⟨_, -, _, -, matched⟩ := matched
    split at matched
    · simp only [bind_eq_ok] at matched
      obtain ⟨_, -, returned⟩ := matched
      cases returned
      split <;> simp [Match.Proper]
    · cases matched
  · cases matched

theorem contactMatch_proper (matched : contactMatch lib candidate contact company = .ok m) :
    m.Proper := by
  unfold contactMatch at matched
  split at matched
  · cases matched
    simp [Match.Proper, Match.crossTenantDenied]
  · simp only [bind_eq_ok] at matched
    obtain ⟨_, email, matched⟩ := matched
    split at matched
    next =>
      cases matched
      exact emailMatch_proper email
    next =>
      simp only [bind_eq_ok] at matched
      obtain ⟨_, -, _, -, returned⟩ := matched
      cases returned
      split
      · split <;> simp [Match.Proper]
      · exact personMatch_proper _ _ _

end Proper

/-! ## Other tenants -/

def Match.identified (m : Match) : Nat × Option String := (m.score, m.publicId)

theorem best_identified (proper : ∀ m ∈ found, m.Proper) :
    (best found).identified = ((scored Match.score found).getD {}).identified := by
  unfold best scored
  cases picked : found.maxOn? Match.score with
  | none => rfl
  | some m =>
    by_cases zero : m.score = 0
    · have nobody := (proper m (List.maxOn?_mem picked)).mp zero
      simp [Option.filter_some, zero, Match.identified, nobody]
    · simp [Option.filter_some, Nat.pos_of_ne_zero zero]

theorem le_best (member : m ∈ found) : m.score ≤ (best found).score := by
  unfold best
  cases picked : found.maxOn? Match.score with
  | none =>
    have given : found ≠ [] := List.ne_nil_of_mem member
    rw [List.maxOn?_eq_some_maxOn given] at picked
    cases picked
  | some b => exact le_of_maxOn? picked member

theorem le_best_of_mapM {α : Type} {f : α → Fallible Match} {values : List α}
    (picked : best <$> values.mapM f = .ok b) :
    ∀ a ∈ values, ∃ m, f a = .ok m ∧ m.score ≤ b.score := by
  intro a member
  obtain ⟨_, matched, rfl⟩ := map_eq_ok.mp picked
  obtain ⟨m, listed, ok⟩ := (mem_of_mapM_eq_ok matched).1 a member
  exact ⟨m, ok, le_best listed⟩

theorem best_of_own {α : Type} {f : α → Fallible Match} {own : α → Bool} {values : List α}
    (proper : ∀ a m, f a = .ok m → m.Proper)
    (denied : ∀ a, own a = false → f a = .ok .crossTenantDenied) :
    Match.identified <$> best <$> values.mapM f = Match.identified <$> best <$>
    (values.filter own).mapM f := by
  have by_score (values : List α) : Match.identified <$> best <$> values.mapM f =
      (fun picked => (picked.getD {}).identified) <$> scored Match.score <$> values.mapM f := by
    cases matched : values.mapM f with
    | error raised => rfl
    | ok found =>
      refine congrArg Except.ok (best_identified fun m member => ?_)
      obtain ⟨a, -, ok⟩ := (mem_of_mapM_eq_ok matched).2 m member
      exact proper a m ok
  rw [by_score, by_score, scored_mapM_filter fun a _ other => ⟨_, denied a other, rfl⟩]

theorem bestCompany_own (candidate : LeadCandidate) (values : List OdooCompany) :
    Match.identified <$> bestCompany lib candidate values = Match.identified <$> bestCompany
    lib candidate
        (values.filter fun company => decide (candidate.tenantId = company.tenantId)) :=
  best_of_own (fun _ _ => companyMatch_proper) fun company other => by
    simp only [decide_eq_false_iff_not] at other
    simp [companyMatch, other]

theorem bestContact_own (candidate : LeadCandidate) (values : List OdooContact) (company : Match) :
    Match.identified <$> bestContact lib candidate values company = Match.identified <$> bestContact
    lib candidate
        (values.filter fun contact => decide (candidate.tenantId = contact.tenantId)) company :=
  best_of_own (fun _ _ => contactMatch_proper) fun contact other => by
    simp only [decide_eq_false_iff_not] at other
    simp [contactMatch, other]

end Matches

/-! ## Evidence for one company

Names are compared without their legal forms. Two names that are nothing else
become empty, and agree. -/

section Evidence

def Company.matchedName (incoming : Company) : String :=
  lib.normalizedCompanyName ((truthy? incoming.legalName).getD incoming.name)

def OdooCompany.matchedName (company : OdooCompany) : String :=
  lib.normalizedCompanyName ((truthy? company.legalName).getD company.name)

/-- Both have a registration number, in one country, and the same one. -/
def Registered (incoming : Company) (company : OdooCompany) : Prop :=
  (truthy? incoming.registrationNumber).isSome ∧ (truthy? company.registrationNumber).isSome ∧
    incoming.countryCode = company.countryCode ∧
    incoming.registrationNumber.map lib.casefold = company.registrationNumber.map lib.casefold

def Company.rootDomain (incoming : Company) : Fallible (Option String) :=
  lib.registrableDomain ((truthy? incoming.domain).or incoming.websiteUrl)

def SameDomain (incoming : Company) (company : OdooCompany) : Prop :=
  ∃ domain, domain ≠ "" ∧ incoming.rootDomain lib = .ok (some domain) ∧
    lib.registrableDomain company.domain = .ok (some domain)

/-- What makes two companies the same. -/
inductive Evidence (incoming : Company) (company : OdooCompany) : Prop where
  | registration (same : Registered lib incoming company)
  | domain (same : SameDomain lib incoming company)
  | names (given : incoming.matchedName lib ≠ "") (stored : company.matchedName lib ≠ "")
      (similar : 75 ≤ lib.similarity (incoming.matchedName lib) (company.matchedName lib))

/-- Something is left of a name, or the names do not come to be compared: the tenants differ, the
registration or the domain decides, or a domain cannot be read and the match raises. -/
def Distinguished (candidate : LeadCandidate) (company : OdooCompany) : Prop :=
  candidate.company.matchedName lib ≠ "" ∨ company.matchedName lib ≠ "" ∨
    candidate.tenantId ≠ company.tenantId ∨ Registered lib candidate.company company ∨
    SameDomain lib candidate.company company ∨
    ∃ exc, candidate.company.rootDomain lib = .error exc ∨
      lib.registrableDomain company.domain = .error exc

/-- How `SequenceMatcher` rates equal texts, and a text beside one without characters. -/
structure Library.Rates : Prop where
  self : ∀ a, lib.similarity a a = 100
  empty : ∀ a b, a ≠ b → a = "" ∨ b = "" → lib.similarity a b = 0

variable {lib} (rates : lib.Rates) {candidate : LeadCandidate} {company : OdooCompany}

theorem truthy?_eq_some : truthy? value = some text ↔ value = some text ∧ text ≠ "" := by
  simp [truthy?, Option.filter_eq_some_iff]

theorem sameText_some_iff : sameText a b = true ↔ ∃ text, text ≠ "" ∧ a = some text ∧
    b = some text := by
  simp only [sameText, Bool.and_eq_true, decide_eq_true_eq]
  constructor
  · rintro ⟨given, same⟩
    obtain ⟨text, kept⟩ := Option.isSome_iff_exists.mp given
    obtain ⟨rfl, nonempty⟩ := truthy?_eq_some.mp kept
    exact ⟨text, nonempty, rfl, (truthy?_eq_some.mp (same.symm.trans kept)).1⟩
  · rintro ⟨text, nonempty, rfl, rfl⟩
    simp [truthy?_eq_some.mpr ⟨rfl, nonempty⟩]

/-- With nothing else to go by, the names are compared. -/
theorem companyMatch_of_bare (bare : ¬ Distinguished lib candidate company) :
    companyMatch lib candidate company = .ok (nameMatch lib candidate.company company) := by
  simp only [Distinguished, not_or, not_not, not_exists] at bare
  obtain ⟨-, -, tenant, unregistered, elsewhere, readable⟩ := bare
  cases given : candidate.company.rootDomain lib with
  | error exc => exact absurd given (readable exc).1
  | ok d =>
    cases stored : lib.registrableDomain company.domain with
    | error exc => exact absurd stored (readable exc).2
    | ok d' =>
      have apart : sameText d d' ≠ true := by
        rw [ne_eq, sameText_some_iff]
        rintro ⟨domain, nonempty, rfl, rfl⟩
        exact elsewhere ⟨domain, nonempty, given, stored⟩
      unfold Registered at unregistered
      unfold Company.rootDomain at given
      simp only [companyMatch, tenant, ne_eq, not_true, if_false, unregistered, given, stored]
      exact congrArg Except.ok (if_neg apart)

include rates

theorem nameMatch_evidence (named : candidate.company.matchedName lib ≠ "" ∨
      company.matchedName lib ≠ "")
    (scored : (nameMatch lib candidate.company company).score ≠ 0) :
    Evidence lib candidate.company company := by
  have similar : 75 ≤ lib.similarity (candidate.company.matchedName lib)
      (company.matchedName lib) := by
    unfold nameMatch at scored
    dsimp only at scored
    split at scored
    next exact =>
      rw [show candidate.company.matchedName lib = company.matchedName lib from exact.1, rates.self]
      decide
    next =>
      split at scored
      next strong => exact Nat.le_trans (by decide) strong.1
      next =>
        split at scored
        next similar => exact similar
        next => exact absurd rfl scored
  -- Two names that differ are not similar when one has no words left.
  have both : candidate.company.matchedName lib ≠ "" ∧ company.matchedName lib ≠ "" := by
    generalize candidate.company.matchedName lib = a, company.matchedName lib = b at similar named
    have := rates.empty a b
    grind
  exact .names both.1 both.2 similar

theorem nameMatch_of_same (same : candidate.company.matchedName lib = company.matchedName lib) :
    ({} : MatchPolicy).reviewThreshold ≤ (nameMatch lib candidate.company company).score := by
  have equal : lib.similarity (lib.normalizedCompanyName ((truthy? candidate.company.legalName).getD
      candidate.company.name)) (lib.normalizedCompanyName
      ((truthy? company.legalName).getD company.name)) = 100 := by
    rw [← Company.matchedName, same]
    exact rates.self _
  unfold nameMatch
  dsimp only
  rw [equal]
  split
  · simp
  · split
    · simp
      omega
    · simp

/-- A score that calls for a review has evidence exactly if the match is not between two names of
which nothing is left. -/
theorem companyMatch_evidence_iff :
    (∀ m, companyMatch lib candidate company = .ok m →
      ({} : MatchPolicy).reviewThreshold ≤ m.score →
        Evidence lib candidate.company company) ↔ Distinguished lib candidate company := by
  constructor
  · intro evident
    by_contra bare
    have matched := companyMatch_of_bare bare
    simp only [Distinguished, not_or, not_not] at bare
    obtain ⟨noName, noStored, -, unregistered, elsewhere, -⟩ := bare
    rcases evident _ matched (nameMatch_of_same rates (noName.trans noStored.symm)) with
      registered | domain | ⟨name, -, -⟩
    · exact unregistered registered
    · exact elsewhere domain
    · exact name noName
  · intro distinguished m matched reached
    have scored : m.score ≠ 0 := by
      intro zero
      simp [zero] at reached
    unfold companyMatch at matched
    dsimp only at matched
    split at matched
    · cases matched
      exact absurd rfl scored
    next tenant =>
    split at matched
    next registered => exact .registration registered
    next unregistered =>
      obtain ⟨d, given, matched⟩ := bind_eq_ok.mp matched
      obtain ⟨d', stored, matched⟩ := bind_eq_ok.mp matched
      cases matched
      split at scored
      next same =>
        obtain ⟨domain, nonempty, rfl, rfl⟩ := sameText_some_iff.mp same
        exact .domain ⟨domain, nonempty, given, stored⟩
      next =>
        rcases distinguished with name | name | other | registered | domain | ⟨exc, raised | raised⟩
        · exact nameMatch_evidence rates (.inl name) scored
        · exact nameMatch_evidence rates (.inr name) scored
        · exact absurd other tenant
        · exact .registration registered
        · exact .domain domain
        · cases given.symm.trans raised
        · cases stored.symm.trans raised

end Evidence

namespace Sample

def library : Library where
  nfkc := id
  casefold := id
  lower := id
  isWord c := c != ' '
  isSpace c := c == ' '
  hostname _ := .ok none
  idna := some
  parsePhone _ _ := none
  similarity a b := if a = b then 100 else 0

theorem requestId_bounded : 1 ≤ "request-1".length ∧ "request-1".length ≤ 128 := by decide

def candidate (tenantId name : String) : LeadCandidate where
  tenantId
  campaignId := "autumn"
  source := ⟨"scrape-1", "request-1", requestId_bounded⟩
  company := ⟨name, none, none, none, none, "DO", ⟨none, none, none⟩⟩
  contact := ⟨none, none, none, none, none, none, none⟩
  evidence := []
  hashed := ⟨[], PythonValue.no_entries⟩

def stored (name : String) : OdooCompany :=
  ⟨"company-1", "tenant-a", name, none, none, "DO", none, none, none, none⟩

end Sample

open Sample

theorem same_name_evidence : Evidence library (candidate "tenant-a" "Acme").company
    (stored "Acme") :=
  (companyMatch_evidence_iff ⟨fun _ => if_pos rfl, fun _ _ other _ => if_neg other⟩).mpr
    (.inl (by decide)) _ (rfl : companyMatch _ (candidate "tenant-a" "Acme") _ = _) (by decide)

/-- Nothing but a legal form is left of either name. -/
theorem legal_forms_matched : companyMatch library (candidate "tenant-a" "llc") (stored "inc") =
    .ok ⟨79, some "company-1", ["COMPANY_NAME_FUZZY_REVIEW"]⟩ :=
  rfl

end CodestraMiddleware.Sales
