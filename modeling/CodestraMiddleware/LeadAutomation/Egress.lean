import CodestraMiddleware.LeadAutomation.Store

/-!
# From an accepted event to the request to Odoo

`receive` and `validate_apply` check the same contract, each in its own words. An event with an
accepted result makes a request exactly if it is `EgressReady`.
-/
namespace CodestraMiddleware.LeadAutomation

open PythonValue Raising Service Sample List Value

/-! ## The request of an event -/

def request (event result : Dict) (automationEventId : String) : List (String × Value) :=
  [("contract_version", .str "1.1"), ("automation_event_id", .str automationEventId)] ++
    eventFields.map (fun name => (name, event.getD name .null)) ++
    ["workflow_execution_id", "result_code"].map (fun name => (name, result.getD name .null)) ++
    optionalApplyFields.filterMap fun name => (event.get? name).map fun v => (name, v)

variable {rt : Runtime} {event result : Dict} {id : String}

theorem buildApplyPayload_eq_ok_iff {payload : List (String × Value)} :
    buildApplyPayload rt event result id = .ok payload ↔
      eventFields ⊆ event.keys ∧ ["workflow_execution_id", "result_code"] ⊆ result.keys ∧
        validateApply rt (request event result id) = .ok () ∧
        payload = request event result id := by
  simp only [buildApplyPayload, bind_eq_ok, items_eq_ok_iff, Except.ok.injEq]
  constructor
  · rintro ⟨_, ⟨fromEvent, rfl⟩, _, ⟨fromResult, rfl⟩, _, valid, rfl⟩
    exact ⟨fromEvent, fromResult, valid, rfl⟩
  · rintro ⟨fromEvent, fromResult, valid, rfl⟩
    exact ⟨_, ⟨fromEvent, rfl⟩, _, ⟨fromResult, rfl⟩, (), valid, rfl⟩

variable {name : String}

theorem lookup_request_event (member : name ∈ eventFields) :
    (request event result id).lookup name = some (event.getD name .null) := by
  simp only [eventFields, mem_cons, not_mem_nil, or_false] at member
  rcases member with rfl | rfl | rfl | rfl | rfl | rfl | rfl | rfl | rfl | rfl | rfl <;> rfl

theorem lookup_request_option (member : name ∈ optionalApplyFields) :
    (request event result id).lookup name = event.get? name := by
  simp only [optionalApplyFields, mem_cons, not_mem_nil, or_false] at member
  cases lead : event.get? "lead_uid" <;> cases source : event.get? "source_reference" <;>
    rcases member with rfl | rfl <;>
    simp [request, eventFields, optionalApplyFields, lead, source, lookup_cons]

theorem map_fst_request : (request event result id).map (·.1) =
    requiredApplyFields ++ optionalApplyFields.filter fun name => (event.get? name).isSome := by
  have fields : (eventFields.map fun name => (name, event.getD name .null)).map
      (·.1) = eventFields := by
    simp [Function.comp_def]
  have options (names : List String) : (names.filterMap fun name => (event.get? name).map fun v =>
        (name, v)).map (·.1) = names.filter fun name => (event.get? name).isSome := by
    induction names with
    | nil => rfl
    | cons name names ih => cases found : event.get? name <;> simp [found, ih]
  rw [request, map_append, map_append, map_append, fields, options]
  rfl

theorem keys_request : (request event result id).map (·.1) ⊆ requiredApplyFields ++
    optionalApplyFields ∧ requiredApplyFields ⊆ (request event result id).map (·.1) := by
  rw [map_fst_request]
  refine ⟨append_subset.mpr ⟨subset_append_left _ _, ?_⟩, subset_append_left _ _⟩
  exact Subset.trans (filter_subset_self _) (subset_append_right _ _)

theorem lookup_request_version : (request event result id).lookup "contract_version" =
    some (.str "1.1") := rfl

theorem lookup_request_id : (request event result id).lookup "automation_event_id" =
    some (.str id) := rfl

/-! ## What the egress side asks for -/

/-- A consent snapshot has exactly its eight fields, a known status, and a flag for contact. -/
def ConsentReady (consent : Value) : Prop :=
  ∃ entries, consent = .dict entries ∧ (entries.map (·.1) ⊆ consentFields ∧
    consentFields ⊆ entries.map (·.1)) ∧
    (∃ status ∈ ["granted", "denied", "expired", "unknown"], entries.lookup "consent_status" =
      some (.str status)) ∧
    ∃ blocked, entries.lookup "dnc_status" = some (.bool blocked)

/-- What the request needs beyond what `receive` and `receive_result` check. -/
structure EgressReady (rt : Runtime) (event result : Dict) : Prop where
  idempotencyKey : ∃ key, event.getD "idempotency_key" .null = .str key ∧ key.length = 64 ∧
    key.toList.all hexDigit = true
  environment : ∃ name ∈ environments, event.getD "environment" .null = .str name
  businessUnit : bounded 63 "" (event.getD "business_unit_key" .null) = true
  campaign : bounded 64 "" (event.getD "campaign_key" .null) = true
  policyVersion : bounded 32 "" (event.getD "policy_version" .null) = true
  correlated : "correlation_id" ∈ event.keys
  correlation : rt.uuid ((event.getD "correlation_id" .null).toText rt.texts) = true
  options : ∀ option ∈ boundedOptions, ∀ v ∈ event.get? option.1, bounded option.2.2
    option.2.1 v = true
  attributes : ∀ schema ∈ attributeSchemas, event.getD "attributes_schema_key" .null =
    .str schema.1 → ∀ entries, event.getD "attributes" .null = .dict entries →
    ∀ entry ∈ entries, ∀ rule ∈ schema.2.properties.lookup entry.1, rule.accepts entry.2 = true
  consent : ConsentReady (event.getD "consent_snapshot" .null)
  execution : bounded 68 "N8N-" (result.getD "workflow_execution_id" .null) = true
  resultCode : bounded 48 "" (result.getD "result_code" .null) = true

theorem validateConsent_eq_ok_iff {consent : Value} : validateConsent consent = .ok () ↔
    ConsentReady consent := by
  cases consent with
  | dict entries =>
    simp only [validateConsent, bind_eq_ok, check_eq_ok, item_eq_ok, typed_eq_ok, flag_eq_ok,
      ConsentReady, Value.dict.injEq, exists_eq_left']
    constructor
    · rintro ⟨-, fields, _, given, _, known, -, rfl, _, dnc, blocked, rfl⟩
      obtain ⟨name, listed, rfl⟩ := isIn_eq_true_iff.mp known
      exact ⟨fields, ⟨name, listed, given⟩, blocked, dnc⟩
    · rintro ⟨fields, ⟨name, listed, given⟩, blocked, dnc⟩
      exact ⟨(), fields, _, given, true, isIn_eq_true_iff.mpr ⟨name, listed, rfl⟩, (), rfl, _, dnc,
        blocked, rfl⟩
  | _ => simp [validateConsent, ConsentReady]

theorem validateOption_request_iff {option : String × String × Nat}
    (member : option ∈ boundedOptions) : validateOption (request event result id) option = .ok () ↔
      ∀ v ∈ event.get? option.1, bounded option.2.2 option.2.1 v = true := by
  have listed : option.1 ∈ optionalApplyFields := by
    revert option
    decide
  rw [validateOption, lookup_request_option listed]
  cases event.get? option.1 <;> simp [boundedString]

/-! ## What the ingress side has checked -/

theorem bounded_of_companyKey {company : String} (valid : companyKey company = true) :
    bounded 18 "" (.str company) = true := by
  unfold companyKey at valid
  split at valid
  next first rest digits =>
    simp only [Bool.and_eq_true, decide_eq_true_eq] at valid
    have length := congrArg List.length digits
    simp only [length_drop, length_cons, String.length_toList] at length
    have nonempty : company ≠ "" := by
      rintro rfl
      simp at length
    simp only [bounded, Bool.and_eq_true, decide_eq_true_eq]
    refine ⟨⟨nonempty, by omega⟩, rfl⟩
  · cases valid

theorem ingress_facts {payload : Dict} (passed : ingress payload = .ok ()) :
    (∃ action ∈ actions, payload.getD "automation_action" .null = .str action) ∧
      (∃ company, payload.getD "company_key" .null = .str company ∧ companyKey company = true) ∧
      ∃ schema, attributeSchemas.find? (fun known =>
          (payload.getD "attributes_schema_key" .null).eq (.str known.1)) = some schema ∧
        ∃ entries, payload.getD "attributes" .null = .dict entries ∧
        entries.map (·.1) ⊆ schema.2.properties.map (·.1) := by
  have required := required_of_ingress passed
  simp only [ingress, bind_eq_ok, check_eq_ok, typed_eq_ok] at passed
  obtain ⟨-, -, -, -, _, known, -, rfl, _, company, -, rfl, _, _, -, rfl, attributes⟩ := passed
  refine ⟨isIn_eq_true_iff.mp known, ?_, ?_⟩
  · obtain ⟨text, given, valid⟩ := fullmatch_eq_true_iff.mp company
    have present := payload.get?_isSome_iff.mpr
      (required (by decide : "company_key" ∈ requiredEventFields))
    obtain ⟨v, found⟩ := Option.isSome_iff_exists.mp present
    simp only [Dict.getD, found, Option.getD_some] at given ⊢
    exact ⟨text, given, valid⟩
  · split at attributes
    next entries schema given found =>
      rw [attributeSchemas_fields, find?_map] at found
      obtain ⟨known, first, rfl⟩ := Option.map_eq_some_iff.mp found
      exact ⟨known, first, entries, given, check_eq_ok.mp attributes⟩
    · cases attributes

/-- Where `receive` has checked the names of the attributes, only their values are left to check. -/
theorem validateAttributes_eq_ok_iff {entries : List (String × Value)}
    (known : attributeSchemas.find? (fun known =>
      (event.getD "attributes_schema_key" .null).eq (.str known.1)) = some schema)
    (given : event.getD "attributes" .null = .dict entries)
    (names : entries.map (·.1) ⊆ schema.2.properties.map (·.1)) :
    validateAttributes (event.getD "attributes_schema_key" .null)
    (event.getD "attributes" .null) = .ok () ↔
      ∀ schema ∈ attributeSchemas, event.getD "attributes_schema_key" .null = .str schema.1 →
        ∀ entries, event.getD "attributes" .null = .dict entries →
        ∀ entry ∈ entries, ∀ rule ∈ schema.2.properties.lookup entry.1,
        rule.accepts entry.2 = true := by
  have key : event.getD "attributes_schema_key" .null = .str schema.1 := by
    simpa using find?_some known
  have listed := mem_of_find?_eq_some known
  have unique : (entries.map (·.1)).Nodup := by
    suffices found : event.get? "attributes" = some (.dict entries) from Dict.keys_nodup found
    rw [Dict.getD] at given
    cases found : event.get? "attributes" with
    | none => simp [found] at given
    | some v => simpa [found] using given
  have few : entries.length ≤ schema.2.maxProperties := by
    rw [attributeSchemas_maxProperties schema listed]
    simpa using (subperm_of_subset unique names).length_le
  have registered : (event.getD "attributes_schema_key" .null).isIn (attributeSchemas.map (·.1)) =
      some true := isIn_eq_true_iff.mpr ⟨schema.1, mem_map_of_mem listed, key⟩
  have inside : ∀ entry ∈ entries, entry.1 ∈ schema.2.properties.map (·.1) :=
    fun entry member => names (mem_map_of_mem member)
  refine Iff.trans (b := ∀ entry ∈ entries, ∀ rule ∈ schema.2.properties.lookup entry.1,
    rule.accepts entry.2 = true) ?_ ⟨?_, ?_⟩
  · simp only [validateAttributes, registered, known, given, bind_eq_ok, check_eq_ok, typed_eq_ok,
      forM_eq_forM, forM_eq_ok, Option.some.injEq, exists_eq_left', few, true_and, exists_const]
    exact and_iff_right inside
  · intro accepted other member same entries' given'
    obtain rfl : entries = entries' := dict.inj (given.symm.trans given')
    -- The keys of the schemas are distinct.
    obtain rfl : other = schema := by
      have names : (attributeSchemas.map (·.1)).Nodup := by decide
      exact inj_on_of_nodup_map names member listed (str.inj (same.symm.trans key))
    exact accepted
  · intro accepted
    exact accepted schema listed key entries given

theorem bounded_automationEventId (uuid : UuidHex) :
    bounded 68 "LAE-" (.str ("LAE-" ++ uuid.text)) = true := by
  have length : ("LAE-" ++ uuid.text).length = 36 := by
    rw [String.length_append, uuid.length]
    rfl
  have nonempty : "LAE-" ++ uuid.text ≠ "" := fun empty => by simp [empty] at length
  simp [bounded, length, nonempty]

theorem bounded_schemaKey : ∀ schema ∈ attributeSchemas, bounded 64 "" (.str schema.1) = true := by
  decide

/-- A payload that `receive` let through makes a request exactly if it is ready. -/
theorem validateApply_request_iff (rt : Runtime) (result : Dict) (passed : ingress event = .ok ())
    (uuid : UuidHex) : validateApply rt (request event result ("LAE-" ++ uuid.text)) = .ok () ∧
        "correlation_id" ∈ event.keys ↔ EgressReady rt event result := by
  obtain ⟨⟨action, known, acts⟩, ⟨company, named, valid⟩, schema, first, _, given, names⟩ :=
    ingress_facts passed
  have fromEvent : ∀ name ∈ eventFields, (request event result ("LAE-" ++ uuid.text)).lookup name =
      some (event.getD name .null) := fun _ => lookup_request_event
  have fromResult : ∀ name ∈ ["workflow_execution_id", "result_code"],
      (request event result ("LAE-" ++ uuid.text)).lookup name = some (result.getD name .null) := by
    simp only [mem_cons, not_mem_nil, or_false]
    rintro name (rfl | rfl) <;> rfl
  simp only [eventFields, forall_mem_cons] at fromEvent fromResult
  obtain ⟨key, environment, companyKey, unit, campaign, actionKey, version, correlation, schemaKey,
    attributes, consent, -⟩ := fromEvent
  obtain ⟨execution, code, -⟩ := fromResult
  simp only [validateApply, bind_eq_ok, check_eq_ok, typed_eq_ok, item_eq_ok, forM_eq_ok,
    forM_eq_forM, boundedString, lookup_request_version, lookup_request_id, key, environment,
    companyKey, unit, campaign, actionKey, version, correlation, schemaKey, attributes, consent,
    execution, code, Option.some.injEq, exists_eq_left', exists_const, boundedFields,
    forall_mem_cons, keys_request, and_self]
  -- The checks of `validate_apply` in their order; those that ingress has made are dropped.
  constructor
  · rintro ⟨⟨-, -, -, -, ⟨text, isText, length, digits⟩, _, served, rfl, _, -, -,
      ⟨-, unitBound, campaignBound, versionBound, -, codeBound, -⟩, _, -, -, parsed, executionBound,
      options, _, values, snapshot⟩, correlated⟩
    exact {
      idempotencyKey := ⟨text, text?_eq_some_iff.mp isText, length, digits⟩
      environment := isIn_eq_true_iff.mp served
      businessUnit := unitBound
      campaign := campaignBound
      policyVersion := versionBound
      correlated := correlated
      correlation := parsed
      options := fun option member => (validateOption_request_iff member).mp (options option member)
      attributes := (validateAttributes_eq_ok_iff first given names).mp values
      consent := validateConsent_eq_ok_iff.mp snapshot
      execution := executionBound
      resultCode := codeBound }
  · intro ready
    obtain ⟨text, isText, length, digits⟩ := ready.idempotencyKey
    have nonempty : text ≠ "" := by
      rintro rfl
      cases length
    have keyBound : bounded 64 "" (event.getD "idempotency_key" .null) = true := by
      simp [isText, bounded, nonempty, length]
    have registered : event.getD "attributes_schema_key" .null = .str schema.1 := by
      simpa using find?_some first
    refine ⟨⟨trivial, by simp, bounded_automationEventId uuid, keyBound,
      ⟨text, text?_eq_some_iff.mpr isText, length, digits⟩, true, isIn_eq_true_iff.mpr
      ready.environment, rfl, true, isIn_eq_true_iff.mpr ⟨action, known, acts⟩, rfl,
      ⟨named ▸ bounded_of_companyKey valid, ready.businessUnit, ready.campaign, ready.policyVersion,
        registered ▸ bounded_schemaKey schema (mem_of_find?_eq_some first), ready.resultCode, by
          simp⟩,
      true, fullmatch_eq_true_iff.mpr ⟨company, named, valid⟩, rfl, ready.correlation,
      ready.execution, ?_, (), ?_, validateConsent_eq_ok_iff.mpr ready.consent⟩, ready.correlated⟩
    · exact fun option member => (validateOption_request_iff member).mpr
        (ready.options option member)
    · exact (validateAttributes_eq_ok_iff first given names).mpr ready.attributes

/-! ## Events with a result -/

structure Checked (h : Held) : Prop where
  ingress : Service.ingress h.event.payload = .ok ()
  id : ∃ uuid : UuidHex, h.event.automationEventId = "LAE-" ++ uuid.text
  result : ∀ result ∈ h.event.resultPayload, requiredResultFields ⊆ result.keys

variable {s : Service} {op : Operation}

theorem checked_stable (rt : Runtime) : (system rt).Stable fun s => Consistent s ∧
    ∀ h ∈ s.events, Checked h := by
  refine events_stable rt ?_ ?_ ?_
  · intro s op arrived new t h stored spec same
    obtain ⟨uuid, payload, rfl, rfl⟩ := Operation.arrival?_eq_some stored
    refine ⟨?_, ⟨uuid, ?_⟩, ?_⟩
    · rw [same, spec.payload]
      exact spec.ingress
    · rw [same, spec.automationEventId]
      rfl
    · simp [same, spec.resultPayload]
  · rintro s h e' ⟨passed, id, results⟩ moved
    refine ⟨moved.payload ▸ passed, moved.automationEventId ▸ id, ?_⟩
    intro result found
    rcases moved.result with kept | ⟨new, _, given, accepted⟩
    · exact results result (kept ▸ found)
    · cases given.symm.trans found
      simp only [checkResult, bind_eq_ok, check_eq_ok] at accepted
      obtain ⟨-, fields, -⟩ := accepted
      exact fields.2
  · rintro h ⟨passed, id, results⟩
    exact ⟨passed, id, results⟩

theorem buildApplyPayload_iff_ready {h : Held} (checked : Checked h)
    (given : h.event.resultPayload = some result) :
    (∃ payload, buildApplyPayload rt h.event.payload result h.event.automationEventId =
      .ok payload) ↔
      EgressReady rt h.event.payload result := by
  obtain ⟨uuid, id⟩ := checked.id
  have iff := validateApply_request_iff rt result checked.ingress uuid
  rw [← id] at iff
  simp only [buildApplyPayload_eq_ok_iff]
  constructor
  · rintro ⟨_, fields, -, valid, -⟩
    exact iff.mp ⟨valid, fields (by decide)⟩
  · intro ready
    have results : ["workflow_execution_id", "result_code"] ⊆ result.keys :=
      Subset.trans (by decide) (checked.result result given)
    refine ⟨_, ?_, results, (iff.mpr ready).1, rfl⟩
    -- Ingress asks for all of the fields but three.
    intro name member
    have listed : name ∈ "idempotency_key" :: "correlation_id" :: "attributes_schema_key" ::
        requiredEventFields := by
      revert name
      decide
    simp only [mem_cons (a := name) (b := "idempotency_key"),
      mem_cons (a := name) (b := "correlation_id"),
      mem_cons (a := name) (b := "attributes_schema_key")] at listed
    rcases listed with rfl | rfl | rfl | required
    · obtain ⟨key, text, -⟩ := ready.idempotencyKey
      exact Dict.mem_keys_of_getD text nofun
    · exact ready.correlated
    · obtain ⟨-, -, schema, first, -⟩ := ingress_facts checked.ingress
      have registered : h.event.payload.getD "attributes_schema_key" .null = .str schema.1 := by
        simpa using find?_some first
      exact Dict.mem_keys_of_getD registered nofun
    · exact required_of_ingress checked.ingress required

/-- In every state that calls lead to, the request of an event with an accepted result can be built
exactly if the event and the result are ready for it. -/
theorem egress_agrees_iff {ops : List Operation} (run : (system rt).Run .initial ops) :
    ∀ h ∈ ((system rt).after .initial ops).events, ∀ result, h.event.resultPayload = some result →
      ((∃ payload, buildApplyPayload rt h.event.payload result h.event.automationEventId =
        .ok payload) ↔ EgressReady rt h.event.payload result) := by
  have start : Consistent .initial ∧ ∀ h ∈ initial.events, Checked h :=
    ⟨consistent_initial, by simp [initial]⟩
  intro h held result given
  exact buildApplyPayload_iff_ready (((checked_stable rt).after start run).2 h held) given

def uncorrelated : List Operation := prepared ++
  [.receive (Sample.uuid 'a') (Sample.payload "E1" "K1"), .reserveDispatch "E1" scope,
    .markDispatched "E1" scope, .acknowledgeN8n "E1" scope, .receiveResult Sample.result scope]

theorem uncorrelated_run : (system runtime).Run .initial uncorrelated := by
  unfold Transition.System.Run
  decide +kernel

theorem uncorrelated_fails : ∃ h ∈ ((system runtime).after .initial uncorrelated).events,
    h.event.state = .odooApplyPending ∧ h.event.resultPayload.isSome ∧
      ∀ result ∈ h.event.resultPayload, (outcome (.initial, buildApplyPayload runtime
        h.event.payload result h.event.automationEventId)).2 =
        some (.keyError "correlation_id") := by
  decide +kernel

theorem uncorrelated_request_fails : (system runtime).Run .initial uncorrelated ∧
    ∃ h ∈ ((system runtime).after .initial uncorrelated).events,
      h.event.state = .odooApplyPending ∧ ∃ result, h.event.resultPayload = some result ∧
        buildApplyPayload runtime h.event.payload result h.event.automationEventId =
        .error (.keyError "correlation_id") := by
  obtain ⟨h, held, state, given, fails⟩ := uncorrelated_fails
  obtain ⟨result, found⟩ := Option.isSome_iff_exists.mp given
  exact ⟨uncorrelated_run, h, held, state, result, found, outcome_eq_some.mp (fails result found)⟩

theorem uncorrelated_not_ready : ∃ h ∈ ((system runtime).after .initial uncorrelated).events,
    ∃ result, h.event.resultPayload = some result ∧ ¬EgressReady runtime h.event.payload
    result := by
  obtain ⟨h, held, -, given, fails⟩ := uncorrelated_fails
  obtain ⟨result, found⟩ := Option.isSome_iff_exists.mp given
  refine ⟨h, held, result, found, ?_⟩
  rw [← egress_agrees_iff uncorrelated_run h held result found]
  rintro ⟨_, built⟩
  have failed := outcome_eq_some.mp (fails result found)
  rw [built] at failed
  cases failed

end CodestraMiddleware.LeadAutomation
