import CodestraMiddleware.Sales.Compliance
import CodestraMiddleware.Sales.Identity

/-!
# Reading from Odoo

`sales/odoo.py`: the port that the service reads through, and the adapter that reads over the
registry client. What the remote side does during a call is a parameter of the port's methods.
-/
namespace CodestraMiddleware.Sales

open PythonValue Raising

structure OdooLookup where
  companies : List OdooCompany
  contacts : List OdooContact
  compliance : Option ComplianceSnapshot

/-- `OdooReadOnlyPort`; `ω` says what the world does during a call. -/
structure OdooReadOnlyPort (ω : Type) where
  lookup (candidate : LeadCandidate) (limit : Nat) : ω → Fallible OdooLookup
  verificationPage (tenantId : String) (campaignId : Option String) (offset limit : Nat) :
    ω → Fallible (List LeadCandidate)

/-! ## The registry adapter -/

/-- How a request of the client went. `failed` is one of the exceptions that the adapter catches. -/
inductive Response where
  | failed | uncaught
  | document (value : Value)

/-- The constructors of records from JSON values: `LeadCandidate.model_validate` with the text of
its `ValidationError`, and the dataclasses, which raise `TypeError`. -/
structure Schemas where
  leadCandidate : Value → Except String LeadCandidate
  odooCompany : Value → Option OdooCompany
  odooContact : Value → Option OdooContact
  complianceSnapshot : Value → Option ComplianceSnapshot

/-- A `TypeError` or `AttributeError` is none of the exceptions that anyone handles. -/
def orOther {α : Type} : Option α → Fallible α
  | some a => .ok a
  | none => .error .other

/-- The document, once the request went well and its tenant is the one that was asked for. -/
def Response.inScope (response : Response) (tenantId failure : String) :
    Fallible (List (String × Value)) :=
  match response with
  | .failed => .error (.odooReadUnavailable failure)
  | .uncaught => .error .other
  | .document (.dict entries) =>
    if ((entries.lookup "tenant_id").getD .null).eq (.str tenantId) then .ok entries
    else .error (.odooReadUnavailable "authoritative Odoo scope mismatch")
  | .document _ => .error .other

/-- `document.get(name, [])[:limit]`, as the values that a loop over it takes. -/
def sliced (entries : List (String × Value)) (name : String) (limit : Nat) :
    Fallible (List Value) :=
  match entries.lookup name with
  | none => .ok []
  | some (.list items) => .ok (items.take limit)
  | some (.str text) => .ok ((text.toList.take limit).map fun c => .str (String.ofList [c]))
  | some _ => .error .other

namespace RegistryOdooReadOnlyAdapter

variable (lib : Library) (schemas : Schemas)

/-- The identifiers that go into the request are normalised first, outside the `try`. -/
def lookup (candidate : LeadCandidate) (limit : Nat) (response : Response) :
    Fallible OdooLookup := do
  check (1 ≤ limit ∧ limit ≤ 100) (.valueError "Odoo lookup limit is outside bounds")
  let _ ← lib.normalizedPhone candidate.contact.businessPhone candidate.contact.countryCode
  let _ ← lib.registrableDomain
    ((truthy? candidate.company.domain).or candidate.company.websiteUrl)
  let _ ← lib.normalizedEmail candidate.contact.businessEmail
  let entries ← response.inScope candidate.tenantId "authoritative Odoo lookup failed"
  let companies ← (← sliced entries "companies" limit).mapM fun v => orOther (schemas.odooCompany v)
  let contacts ← (← sliced entries "contacts" limit).mapM fun v => orOther (schemas.odooContact v)
  let compliance := (entries.lookup "compliance").getD .null
  if compliance.truthy then
    return ⟨companies, contacts, some (← orOther (schemas.complianceSnapshot compliance))⟩
  else return ⟨companies, contacts, none⟩

def verificationPage (tenantId : String) (limit : Nat) (response : Response) :
    Fallible (List LeadCandidate) := do
  check (1 ≤ limit ∧ limit ≤ 100) (.valueError "Odoo page is outside bounds")
  let entries ← response.inScope tenantId "authoritative Odoo verification read failed"
  (← sliced entries "records" limit).mapM fun v => (schemas.leadCandidate v).mapError .valueError

def port : OdooReadOnlyPort Response where
  lookup := lookup lib schemas
  verificationPage tenantId _ _ limit := verificationPage schemas tenantId limit

end RegistryOdooReadOnlyAdapter

end CodestraMiddleware.Sales
