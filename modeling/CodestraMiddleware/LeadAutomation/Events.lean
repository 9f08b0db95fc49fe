import CodestraMiddleware.LeadAutomation.Service

/-!
# The events that the service holds

An event is known to callers by two keys: the `event_id` of its sender, under which the service
holds it, and the `automation_event_id`, which no two events share.
-/
namespace CodestraMiddleware.LeadAutomation.Service

open PythonValue List

def ids (events : List Held) : List String := events.map (·.event.automationEventId)

def replaced? (events : List Held) (new : Held) : Option Held :=
  events.find? fun old => decide (old.scope = new.scope ∧ old.eventId.eq new.eventId = true)

variable {h : Held} {events : List Held}

section Place

variable {new : Held}

theorem mem_place (member : h ∈ place new events) :
    h ∈ events ∨ (h.event = new.event ∧ h.scope = new.scope) := by
  fun_induction place new events with
  | case1 =>
    obtain rfl := mem_singleton.mp member
    exact Or.inr ⟨rfl, rfl⟩
  | case2 old rest same =>
    rcases mem_cons.mp member with rfl | later
    · exact Or.inr ⟨rfl, same.1⟩
    · exact Or.inl (mem_cons_of_mem _ later)
  | case3 old rest _ ih =>
    rcases mem_cons.mp member with rfl | later
    · exact Or.inl mem_cons_self
    · exact (ih later).imp_left (mem_cons_of_mem _)

theorem exists_mem_place (new : Held) (events : List Held) :
    ∃ h ∈ place new events, h.event = new.event ∧ h.scope = new.scope := by
  fun_induction place new events with
  | case1 => exact ⟨new, mem_singleton.mpr rfl, rfl, rfl⟩
  | case2 old rest same => exact ⟨_, mem_cons_self, rfl, same.1⟩
  | case3 old rest _ ih =>
    obtain ⟨h, member, found⟩ := ih
    exact ⟨h, mem_cons_of_mem _ member, found⟩

theorem mem_place_of_mem (member : h ∈ events) (stays : replaced? events new ≠ some h) :
    h ∈ place new events := by
  fun_induction place new events with
  | case1 => cases member
  | case2 old rest same =>
    simp only [replaced?, find?_cons, same, and_self, decide_true] at stays
    rcases mem_cons.mp member with rfl | later
    · exact absurd rfl stays
    · exact mem_cons_of_mem _ later
  | case3 old rest other ih =>
    simp only [replaced?, find?_cons, other, decide_false] at stays
    rcases mem_cons.mp member with rfl | later
    · exact mem_cons_self
    · exact mem_cons_of_mem _ (ih later stays)

/-- The ids of the events that are held: the new one, and the old ones but for the one that gave
way. -/
theorem ids_place (unique : (ids events).Nodup) (fresh : new.event.automationEventId ∉ ids events) :
    (ids (place new events)).Nodup ∧ ∀ old ∈ replaced? events new, old.event.automationEventId ∉ ids
    (place new events) := by
  fun_induction place new events with
  | case1 => exact ⟨nodup_singleton _, by simp [replaced?]⟩
  | case2 old rest same =>
    simp only [ids, map_cons, nodup_cons, mem_cons, not_or] at unique fresh
    simp only [replaced?, find?_cons, same, and_self, decide_true, ids, map_cons, nodup_cons]
    refine ⟨⟨fresh.2, unique.2⟩, ?_⟩
    rintro _ ⟨⟩
    simp only [mem_cons, not_or]
    exact ⟨Ne.symm fresh.1, unique.1⟩
  | case3 old rest other ih =>
    simp only [ids, map_cons, nodup_cons, mem_cons, not_or] at unique fresh ih
    simp only [replaced?, find?_cons, other, decide_false, ids, map_cons, nodup_cons]
    obtain ⟨nodup, gone⟩ := ih unique.2 fresh.2
    refine ⟨⟨?_, nodup⟩, ?_⟩
    · intro again
      obtain ⟨h, member, id⟩ := mem_map.mp again
      rcases mem_place member with later | ⟨placed, _⟩
      · exact unique.1 (id ▸ mem_map_of_mem later)
      · exact fresh.1 (by rw [← placed, id])
    · intro dropped found
      simp only [mem_cons, not_or]
      refine ⟨?_, gone dropped found⟩
      intro id
      exact unique.1 (id ▸ mem_map_of_mem (mem_of_find?_eq_some found))

end Place

section Write

variable {s : Service} {e e' : Event}

theorem ids_write (s : Service) (e : Event) : ids (s.write e).events = ids s.events := by
  simp only [ids, write, map_map]
  refine map_congr_left fun h _ => ?_
  simp only [Function.comp]
  split
  next same => exact same.symm
  · rfl

theorem mem_write (unique : (ids s.events).Nodup) (held : ∃ h ∈ s.events, h.event = e)
    (same : e'.automationEventId = e.automationEventId) (member : h' ∈ (s.write e').events) :
    (h' ∈ s.events ∧ h'.event.automationEventId ≠ e.automationEventId) ∨
      ∃ h ∈ s.events, h.event = e ∧ h' = { h with event := e' } := by
  obtain ⟨h, before, rfl⟩ := mem_map.mp member
  obtain ⟨_, holds, rfl⟩ := held
  split
  next written =>
    obtain rfl := inj_on_of_nodup_map unique before holds (written.trans same)
    exact Or.inr ⟨h, before, rfl, rfl⟩
  next written => exact Or.inl ⟨before, fun again => written (again.trans same.symm)⟩

theorem exists_mem_write (e : Event) (member : h ∈ s.events) :
    ∃ h' ∈ (s.write e).events, h'.scope = h.scope ∧ h'.eventId = h.eventId ∧
      h'.event.automationEventId = h.event.automationEventId := by
  refine ⟨_, mem_map_of_mem member, ?_⟩
  split
  next same => exact ⟨rfl, rfl, same.symm⟩
  · exact ⟨rfl, rfl, rfl⟩

end Write

end CodestraMiddleware.LeadAutomation.Service
