import CodestraMiddleware.Foundations.Fields

/-!
# Keys of lead synchronisations

`core/lead_reconciliation.py`.
-/
namespace CodestraMiddleware.LeadReconciliation

open Fields

structure OdooIdentity where
  (companyId environmentId connectorId model : String)
  recordId : Int
  revision : String

def idempotencyKey (i : OdooIdentity) (campaignOrListId : String) : String :=
  "odoo:" ++ i.model ++ ":" ++ toString i.recordId ++ ":campaign:" ++ campaignOrListId ++ ":" ++
    i.revision ++ ":vicidial:" ++ i.connectorId

variable {i i' : OdooIdentity} {c c' : String}

/-- Everything that the key names agrees. -/
def Agree (i i' : OdooIdentity) (c c' : String) : Prop :=
  i.connectorId = i'.connectorId ∧ i.model = i'.model ∧ i.recordId = i'.recordId ∧
    i.revision = i'.revision ∧ c = c'

def Sample.lead : OdooIdentity := ⟨"1", "staging", "c1", "crm.lead", 42, "7:0"⟩

end CodestraMiddleware.LeadReconciliation
