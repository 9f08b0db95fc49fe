import CodestraMiddleware.Foundations.Run
import CodestraMiddleware.Foundations.Values

/-!
# Intake from Odoo's outbox

The loop of `run_sync_cycle` in `adapters/odoo/sync.py` over the records that it has claimed. What
is raised for one record leaves the loop, and nobody looks at the records behind it.
-/
namespace CodestraMiddleware.OdooSync

open PythonValue Transition List

/-- The texts of values, SHA-256 of the canonical JSON of a payload, and the documents that
PostgreSQL takes as `JSONB` (none with a NaN or a U+0000). -/
structure Runtime where
  texts : Value.Texts
  digest : Value → String
  jsonb : Value → Bool

inductive Exc where
  | odooSync (message : String)
  | typeError
  | dataError
  deriving DecidableEq

/-- A claimed record with what happens while it is taken in: another session may commit an event
with its id first, and Odoo may not answer the acknowledgement. -/
structure Turn where
  record : Value
  rival : Option String := none
  answered : Bool := true

/-- The payload hash of each event that is committed, and the acknowledgements in
the order they were sent. -/
structure World where
  events : String → Option String
  acknowledged : List (String × String)

section

variable (rt : Runtime)

def required : List String :=
  ["event_id", "event_type", "schema_version", "payload", "payload_hash", "correlation_id",
    "lease_token", "lease_generation"]

/-- `_validate_record`; `compare_digest` refuses texts that are not ASCII. -/
def validateRecord (record : List (String × Value)) : Except Exc String :=
  match record.lookup "payload" with
  | some (.dict payload) =>
    let supplied := (((record.lookup "payload_hash").getD .null).toText rt.texts).toList
    let bare := if "sha256:".toList <+: supplied then supplied.drop 7 else supplied
    if !required.all (record.lookup · |>.isSome) then
      .error (.odooSync "Odoo outbox record schema rejected")
    else if !bare.all (·.toNat < 128) then .error .typeError
    else if (rt.digest (.dict payload)).toList ≠ bare then
      .error (.odooSync "Odoo outbox payload hash rejected")
    else .ok (rt.digest (.dict payload))
  | _ => .error (.odooSync "Odoo outbox record schema rejected")

def eventId (record : List (String × Value)) : String :=
  ((record.lookup "event_id").getD .null).toText rt.texts

/-- The texts of the new row, with the widths of their columns. -/
def columns (record : List (String × Value)) : List (String × Nat) :=
  let text field absent := ((record.lookup field).getD absent).toText rt.texts
  let id := eventId rt record
  [((((record.lookup "idempotency_key").getD .null).orElse (.str id)).toText rt.texts, 255),
    (text "event_type" .null, 100), (text "schema_version" .null, 16), (id, 128),
    ("odoo:" ++ text "aggregate_type" (.str "record") ++ ":" ++ text "aggregate_public_id"
      (.str id), 256),
    (text "correlation_id" .null, 128)]

/-- PostgreSQL takes the row: each text is as short as its column and without U+0000. -/
def storable (record : List (String × Value)) : Bool :=
  (columns rt record).all (fun c => c.1.length ≤ c.2 && c.1.toList.all (· ≠ Char.ofNat 0)) &&
    rt.jsonb ((record.lookup "payload").getD .null)

/-- One iteration: the event that is found, that a rival commits, or that is committed now, and the
acknowledgement if its hash is the record's. Only an `IntegrityError` of the commit is caught. -/
def intake (w : World) (t : Turn) : World × Option Exc :=
  match t.record with
  | .dict record =>
    match validateRecord rt record with
    | .error exc => (w, some exc)
    | .ok digest =>
      let id := eventId rt record
      let stored := (w.events id).getD (t.rival.getD digest)
      let events := Function.update w.events id stored
      if (w.events id).isNone ∧ !storable rt record then
        ({ w with events := Function.update w.events id t.rival }, some .dataError)
      else if stored ≠ digest then ({ w with events },
        some (.odooSync "Odoo event idempotency conflict"))
      else (⟨events, w.acknowledged ++ [(id, digest)]⟩,
        if t.answered then none else some (.odooSync "Odoo dependency unavailable"))
  | _ => (w, some (.odooSync "Odoo claim response schema rejected"))

/-- What is acknowledged is committed under its hash. -/
def Safe (w : World) : Prop := ∀ entry ∈ w.acknowledged, w.events entry.1 = some entry.2

/-- The record is well-formed, its event is stored with its hash, or new and such that PostgreSQL
takes it with no other hash before it, and its acknowledgement is answered. -/
def Fits (w : World) (t : Turn) : Prop :=
  t.answered ∧ ∃ record digest, t.record = .dict record ∧ validateRecord rt record = .ok digest ∧
    (w.events (eventId rt record) = none → storable rt record) ∧
      (w.events (eventId rt record)).getD (t.rival.getD digest) = digest

/-- The entry is the record's event id and hash. -/
def EntryOf (t : Turn) (entry : String × String) : Prop :=
  ∃ record digest, t.record = .dict record ∧ validateRecord rt record = .ok digest ∧
    entry = (eventId rt record, digest)

/-- What a turn does: events stay as they are, at most the record's own acknowledgement is sent,
once its event is committed, and the loop goes on just behind a record that fits. -/
structure Taken (w : World) (t : Turn) (w' : World) (exc : Option Exc) : Prop where
  kept : ∀ id hash, w.events id = some hash → w'.events id = some hash
  sent : w'.acknowledged = w.acknowledged ∧ exc ≠ none ∨
    ∃ entry, w'.acknowledged = w.acknowledged ++ [entry] ∧ EntryOf rt t entry ∧
      w'.events entry.1 = some entry.2 ∧ (t.answered = true → exc = none)
  going : exc = none ↔ Fits rt w t

variable {rt} {w w' : World} {t : Turn} {exc : Option Exc}

theorem Taken.safe (taken : Taken rt w t w' exc) (safe : Safe w) : Safe w' := by
  rcases taken.sent with ⟨same, _⟩ | ⟨entry, sent, _, committed, _⟩
  · exact fun e member => taken.kept _ _ (safe e (same ▸ member))
  · intro e member
    rcases mem_append.mp (sent ▸ member) with old | new
    · exact taken.kept _ _ (safe e old)
    · exact mem_singleton.mp new ▸ committed

theorem Taken.mono (taken : Taken rt w t w' exc) : w.acknowledged <+: w'.acknowledged := by
  rcases taken.sent with ⟨same, _⟩ | ⟨_, sent, _⟩
  · exact same ▸ prefix_rfl
  · exact ⟨_, sent.symm⟩

end

namespace Sample

/-- Every payload has the digest `d`. -/
def runtime : Runtime := ⟨⟨fun _ => "", fun _ => ""⟩, fun _ => "d", fun _ => true⟩

def record (id : String) : Turn :=
  ⟨.dict [("event_id", .str id), ("event_type", .null), ("schema_version", .null),
    ("payload", .dict []),
    ("payload_hash", .str "sha256:d"), ("correlation_id", .null), ("lease_token", .null),
    ("lease_generation", .int 1)], none, true⟩

def nothing : World := ⟨fun _ => none, []⟩

end Sample

end CodestraMiddleware.OdooSync
