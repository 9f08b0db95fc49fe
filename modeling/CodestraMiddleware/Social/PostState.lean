import CodestraMiddleware.Social.System

/-!
# The state of a post

The status of a post is what the last of its jobs to complete was told by the provider. No job looks
at it.
-/
namespace CodestraMiddleware.Social

open Transition Leases Sample Option

section PostState

variable {ω : Type} (rt : Runtime) (settings : Settings) (registry : SocialProviderRegistry ω)
  {ι : Type} [DecidableEq ι]

def Note.status? (postId : UUID) : Note → Option SocialPostStatus
  | .completed _ id status _ => if id = postId then some status else none
  | _ => none

def lastStatus? (log : List Note) (postId : UUID) : Option SocialPostStatus :=
  log.findSome? (Note.status? postId)

/-! ## Posts in a step -/

/-- What a step can do to the post of an identifier; `result` is the status that a completed job
reports for it. -/
inductive PostChange (db db' : Database) (id : UUID) : Option SocialPostStatus → Prop where
  | absent (before : db.post? id = none) (after : db'.post? id = none) : PostChange db db' id none
  | created {p} (before : db.post? id = none) (after : db'.post? id = some p)
      (queued : p.status = .queued) : PostChange db db' id none
  | kept {p p'} (before : db.post? id = some p) (after : db'.post? id = some p')
      (same : p'.status = p.status) : PostChange db db' id none
  | completed {p p'} (before : db.post? id = some p) (after : db'.post? id = some p') :
      PostChange db db' id (some p'.status)

/-- The foreign key of `social_publish_jobs`. -/
def PostsPresent (db : Database) : Prop :=
  ∀ id, ∀ row ∈ db.job? id, (db.post? row.socialPostId).isSome = true

section PostChange

variable {settings} {db db' : Database} {id : UUID}

theorem PostChange.of_same (same : db'.posts = db.posts) : PostChange db db' id none := by
  have looked : db'.post? id = db.post? id := by simp [Database.post?, same]
  cases before : db.post? id with
  | none => exact .absent before (looked.trans before)
  | some p => exact .kept before (looked.trans before) rfl

theorem PostChange.of_extends (extends_ : Extends db db') (id : UUID) :
    PostChange db db' id none := by
  rcases extends_.post? id with ⟨f, mapped, kept⟩ | ⟨before, post, after, queued⟩
  · cases before : db.post? id with
    | none => exact .absent before (by simp [mapped, before])
    | some p => exact .kept before (by rw [mapped, before, map_some]) (kept p).1
  · exact .created before after queued

theorem PostChange.isSome (change : PostChange db db' id result)
    (present : (db.post? id).isSome = true) : (db'.post? id).isSome = true := by
  cases change with
  | absent before | created before => simp [before] at present
  | kept _ after | completed _ after => simp [after]

theorem completeJob_postChange (done : completeJob job result eventId db = .ok (eventId, db'))
    (present : (db.post? job.socialPostId).isSome = true) (id : UUID) :
    PostChange db db' id (if job.socialPostId = id then some result.status else none) := by
  have looked := completeJob_post? done id
  split
  next same =>
    subst same
    obtain ⟨p, before⟩ := isSome_iff_exists.mp present
    rw [before, map_some] at looked
    have named := (db.post?_eq_some.mp before).2
    have written : (p.record job result).status = result.status := by
      simp [SocialPost.record, named]
    rw [← written]
    exact .completed before looked
  next other =>
    cases before : db.post? id with
    | none => exact .absent before (by simp [looked, before])
    | some p =>
      refine .kept before (by rw [looked, before, map_some]) ?_
      have named := (db.post?_eq_some.mp before).2
      rw [SocialPost.record, if_neg]
      rw [named]
      exact Ne.symm other

theorem Reacts.postChange (reacts : Reacts settings db w e r)
    (present : ∀ job stage, w = .running job stage → (db.post? job.socialPostId).isSome = true)
    (id : UUID) : PostChange db r.database id (r.note.bind (Note.status? id)) := by
  cases reacts with
  | completes running done => exact completeJob_postChange done (present _ _ running) id
  | fails running done recorded =>
    rcases failJob_eq_ok done with ⟨lost, -⟩ | ⟨-, -, _, -, rfl⟩
    · exact absurd lost recorded
    · exact .of_same (by rfl)
  | _ => exact .of_same rfl

end PostChange

/-- Every step changes a post in one of the ways of `PostChange`, and the log says so. -/
theorem step_postChange (known : AllKnown s) (present : PostsPresent s.database)
    (e : Event ι ω) (id : UUID) :
    ∃ result, PostChange s.database (step rt settings registry s e).database id result ∧
      lastStatus? (step rt settings registry s e).log id = result.or (lastStatus? s.log id) := by
  cases e with
  | request r => exact ⟨none, .of_extends (r.handle_extends rt s.database) id, rfl⟩
  | recoverStaleJobs now =>
    refine ⟨none, .of_same rfl, ?_⟩
    have unsaid : ((recoverStaleJobs now s.database).1.map fun job =>
        Note.recovered job.1).findSome? (Note.status? id) = none := by
      rw [List.findSome?_eq_none_iff]
      exact List.forall_mem_map.mpr fun _ _ => rfl
    simp only [step, lastStatus?, List.findSome?_append, unsaid]
  | worker i e =>
    have reacts := react_reacts rt settings registry s.database e (s.workers i)
    refine ⟨_, reacts.postChange ?_ id, ?_⟩
    · intro job stage running
      obtain ⟨row, known'⟩ := known i job stage running
      rw [← show row.socialPostId = job.socialPostId from congrArg JobSpec.socialPostId known'.spec]
      exact present _ row known'.found
    · simp only [step, lastStatus?, List.findSome?_append]
      cases (Worker.react rt settings registry s.database e (s.workers i)).note <;> simp

/-- The stored statuses are those that the log reports. -/
structure StatusLogged (s : State ι) : Prop where
  books : Books s
  present : PostsPresent s.database
  stored : ∀ id, ∀ row ∈ s.database.post? id, row.status = (lastStatus? s.log id).getD .queued
  absent : ∀ id, s.database.post? id = none → lastStatus? s.log id = none

theorem statusLogged_stable : (system (ι := ι) rt settings registry).Stable StatusLogged := by
  intro s e admitted logged
  have changes := step_postChange rt settings registry logged.books.known logged.present e
  refine ⟨books_stable rt registry s e admitted logged.books, ?_, ?_, ?_⟩
  · intro id row after'
    obtain ⟨a, change, -⟩ := step_change rt settings registry logged.books.known e id
    cases change with
    | absent _ after => simp [system, after] at after'
    | created _ after _ _ posted =>
      cases after.symm.trans after'
      exact posted
    | @progressed row₀ row₁ _ before after progress =>
      obtain rfl := some.inj (after.symm.trans after')
      obtain ⟨result, kept, -⟩ := changes row₀.socialPostId
      rw [show row₁.socialPostId = row₀.socialPostId from congrArg JobSpec.socialPostId
        progress.spec]
      exact kept.isSome (logged.present id row₀ before)
  · intro id row after'
    obtain ⟨result, change, reported⟩ := changes id
    simp only [system] at after' ⊢
    rw [reported]
    cases change with
    | absent _ after => simp [after] at after'
    | created before after queued =>
      cases after.symm.trans after'
      simp [logged.absent id before, queued]
    | kept before after same =>
      cases after.symm.trans after'
      rw [same, logged.stored id _ before, none_or]
    | completed before after =>
      cases after.symm.trans after'
      rfl
  · intro id after'
    obtain ⟨_, change, reported⟩ := changes id
    simp only [system] at after' ⊢
    rw [reported]
    cases change with
    | absent before => exact logged.absent id before
    | created _ after | kept _ after | completed _ after => simp [after] at after'

/-- A post has the status that its last completed job reported. -/
theorem posts_tally (es : List (Event ι ω)) :
    StatusLogged ((system rt settings registry).after (.initial ι) es) := by
  refine (statusLogged_stable rt settings registry).after ⟨books_initial, ?_, ?_, fun _ _ => rfl⟩
    (run_system ..)
  · rintro id row ⟨⟩
  · rintro id row ⟨⟩

end PostState

end CodestraMiddleware.Social
