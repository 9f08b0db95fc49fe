import CodestraMiddleware.Social.System

/-!
# Approved content

That the content of a post is approved is written on the publish job, while the content stays on the
post: `update_post` may change it as long as the post's status is an early one, and the worker sends
what it finds.
-/
namespace CodestraMiddleware.Social

open Relational Raising Transition Database Constrained PythonValue Worker Request System
open CommandRequest (job)

variable {id : UUID} {row : SocialPublishJob} {post : SocialPost} {r : Request} {stage : Stage}

section Approval

variable {ω : Type} (rt : Runtime) (settings : Settings) (registry : SocialProviderRegistry ω)
variable {ι : Type} [DecidableEq ι]

/-! ## Accepted commands -/

/-- The command that a request enqueues with its content approved: the job, and the content of the
post at that time. -/
def Request.acceptance (db : Database) : Request → Option (UUID × Dict)
  | .enqueue c now postId jobId =>
    match db.post? postId, (do enqueueCommand rt c now (← getPost postId db) jobId db) with
    | some post, .ok ((id, true), _) =>
      if c.productionContext.any (·.contentApproved) then some (id, post.content) else none
    | _, _ => none
  | _ => none

def acceptances (s : State ι) : Event ι ω → List (UUID × Dict)
  | .request r => (r.acceptance rt s.database).toList
  | .recoverStaleJobs _ | .worker _ _ => []

def approving : System (State ι × List (UUID × Dict)) (Event ι ω) :=
  (system rt settings registry).recording (acceptances rt)

/-- What a worker publishes for a job with `content_approved_at` has the content
that was approved. -/
def SendsApproved (s : State ι × List (UUID × Dict)) (e : Event ι ω) : Prop :=
  ∀ i job post, e = .worker i .call → s.1.workers i = .running job (.ready (.publish post)) →
    job.contentApprovedAt.isSome = true → s.2.lookup job.id = some post.content

/-- The request is an edit that gives the post another content. -/
def Request.Rewrites (db : Database) (postId : UUID) : Request → Prop
  | .update id (some content) _ =>
    id = postId ∧ ∃ post, db.post? id = some post ∧ post.status.editable = true ∧
      content ≠ post.content
  | _ => False

def JobState.finished (state : JobState) : Bool := state ∈ [JobState.completed, .deadLetter]

/-- An edit that changes the content of a post finds no unfinished job with an approved content, and
no worker that has claimed one and is about to load the post. -/
def SparesApproved (s : State ι) : Event ι ω → Prop
  | .request r => ∀ postId, r.Rewrites s.database postId →
      (∀ row ∈ s.database.jobs.rows, row.socialPostId = postId →
        row.contentApprovedAt.isSome = true →
        row.state.finished = true) ∧ ∀ i job, s.workers i = .running job .claimed →
        job.socialPostId = postId → job.contentApprovedAt = none
  | .recoverStaleJobs _ | .worker _ _ => True

section Requests

variable {rt} {db : Database}

theorem acceptance_fresh (accepted : r.acceptance rt db = some (id, content)) :
    db.job? id = none := by
  unfold acceptance at accepted
  split at accepted
  next c now postId jobId =>
    split at accepted
    next post id' db' found done =>
      obtain ⟨_, -, done⟩ := bind_eq_ok.mp done
      rcases enqueueCommand_eq_ok done with ⟨replayed, -⟩ | ⟨reply, -, _, _, queued, -⟩
      · cases replayed
      · split at accepted
        next approved =>
          cases accepted
          cases reply
          exact insert?_fresh job_unique queued (by simp [job])
        next => cases accepted
    next => cases accepted
  next => cases accepted

theorem getPost_eq_ok (got : getPost postId db = .ok post) : db.post? postId = some post := by
  unfold getPost at got
  split at got
  next found =>
    cases got
    exact found
  next => cases got

/-- A job with an approved content was there before the request, or the request
is its acceptance. -/
theorem handle_approved (after : (r.handle rt db).job? id = some row)
    (approved : row.contentApprovedAt.isSome = true) :
    db.job? id = some row ∨ ∃ post, r.acceptance rt db = some (id, post.content) ∧
    db.post? row.socialPostId = some post := by
  have inserted {db' : Database} {job : SocialPublishJob}
    (queued : db.jobs.insert? job = some db'.jobs)
      (found : db'.job? id = some row) : row = job ∧ job.id = id ∨ db.job? id = some row := by
    have looked : db'.job? id = if decide (job.id = id) = true then some job else db.job? id :=
      find?_insert? job_unique queued
    rw [found] at looked
    split at looked
    next named => exact .inl ⟨Option.some_inj.mp looked, by simpa using named⟩
    next => exact .inr looked.symm
  cases r with
  | create =>
    left
    simp only [handle] at after
    split at after
    next reply db' done =>
      rcases createPostIntent_eq_ok done with rfl | ⟨_, _, _, -, queued, rfl⟩
      · exact after
      · rcases inserted queued after with ⟨rfl, -⟩ | before
        · cases approved
        · exact before
    next => exact after
  | update =>
    left
    simp only [handle] at after
    split at after
    next db' done =>
      obtain ⟨-, -, -, -, kept⟩ := updatePost_eq_ok done
      rw [kept] at after
      exact after
    next => exact after
  | enqueue c now postId jobId =>
    simp only [handle] at after
    split at after
    next reply db' done =>
      have whole := done
      obtain ⟨post, got, done⟩ := bind_eq_ok.mp done
      have found := getPost_eq_ok got
      rcases enqueueCommand_eq_ok done with ⟨-, rfl⟩ | ⟨rfl, -, _, _, queued, rfl⟩
      · exact .inl after
      · rcases inserted queued after with ⟨rfl, named⟩ | before
        · right
          refine ⟨post, ?_, ?_⟩
          · simp only [acceptance, found, whole]
            have flagged : c.productionContext.any (·.contentApproved) = true := by
              simp only [job] at approved
              split at approved
              next flagged => exact flagged
              next => cases approved
            rw [if_pos flagged, ← named]
            rfl
          · have own : post.id = postId := ((db.post?_eq_some).mp found).2
            simpa [job, own] using found
        · exact .inl before
    next => exact .inl after
  | putAccount account => exact .inl after

theorem handle_content (rt : Runtime) (found : db.post? id = some post)
    (kept : ¬ r.Rewrites db id) :
    ∃ post', (r.handle rt db).post? id = some post' ∧ post'.content = post.content := by
  have same {db' : Database} (posts : db'.posts = db.posts) :
      ∃ post', db'.post? id = some post' ∧ post'.content = post.content :=
    ⟨post, by rwa [post?, posts], rfl⟩
  cases r with
  | create =>
    simp only [handle]
    split
    next reply db' done =>
      rcases createPostIntent_eq_ok done with rfl | ⟨_, _, _, posted, -, rfl⟩
      · exact same rfl
      · have looked := find?_insert? (@Database.post_unique id) posted
        split at looked
        next named =>
          have fresh := insert?_fresh (@Database.post_unique id) posted named
          exact absurd found (by rw [post?, fresh]; simp)
        next => exact ⟨post, looked.trans found, rfl⟩
    next => exact same rfl
  | update postId content metadata =>
    simp only [handle]
    split
    next db' done =>
      obtain ⟨edited, there, editable, mapped, -⟩ := updatePost_eq_ok done
      refine ⟨post.edit postId content metadata, ?_, ?_⟩
      · refine (find?_of_map mapped fun p => ?_).trans ?_
        · unfold SocialPost.edit
          split <;> rfl
        · rw [show db.posts.find? (fun p => decide (p.id = id)) = some post from found]
          rfl
      · unfold SocialPost.edit
        split
        next own =>
          cases content with
          | none => rfl
          | some content =>
            -- The post is edited, so its content must be the one it had.
            by_contra other
            have same : id = postId := ((db.post?_eq_some).mp found).2.symm.trans own
            subst same
            obtain rfl := Option.some_inj.mp (there.symm.trans found)
            exact kept ⟨rfl, edited, found, editable, other⟩
        next => rfl
    next => exact same rfl
  | enqueue =>
    simp only [handle]
    split
    next reply db' done =>
      obtain ⟨_, -, done⟩ := bind_eq_ok.mp done
      rcases enqueueCommand_eq_ok done with ⟨-, rfl⟩ | ⟨-, -, _, _, -, rfl⟩
      · exact same rfl
      · exact same rfl
    next => exact same rfl
  | putAccount account => exact same rfl

end Requests

section

variable (db : Database) (accepted : List (UUID × Dict)) (job : JobSpec)

def JobSpec.Held : Prop :=
  ∃ post, db.post? job.socialPostId = some post ∧ accepted.lookup job.id = some post.content

/-- A worker will find the approved content, or has it in hand. -/
def Stage.Honours : Stage → Prop
  | .claimed => job.Held db accepted
  | .loaded post | .ready (.publish post) => accepted.lookup job.id = some post.content
  | _ => True

end

structure Honoured (s : State ι × List (UUID × Dict)) : Prop where
  known : AllKnown s.1
  rows : ∀ id row, s.1.database.job? id = some row → row.contentApprovedAt.isSome = true →
    row.state.finished = false → row.toJobSpec.Held s.1.database s.2
  workers : ∀ i job stage, s.1.workers i = .running job stage →
    job.contentApprovedAt.isSome = true → stage.Honours s.1.database s.2 job.toJobSpec

section Kept

variable {rt settings registry} {s : State ι} {accepted : List (UUID × Dict)}
  {e : Event ι ω} {job : JobSpec}

omit [DecidableEq ι] in
theorem lookup_recorded (there : s.database.job? id ≠ none) :
    (acceptances rt s e ++ accepted).lookup id = accepted.lookup id := by
  cases e with
  | recoverStaleJobs | worker => rfl
  | request r =>
    simp only [acceptances]
    cases made : r.acceptance rt s.database with
    | none => rfl
    | some entry =>
      obtain ⟨new, _⟩ := entry
      have other : id ≠ new := fun same => there (same ▸ acceptance_fresh made)
      simp [List.lookup_cons, beq_eq_false_iff_ne.mpr other]

theorem content_kept (found : s.database.post? id = some post)
    (kept : ∀ r, e = .request r → ¬ r.Rewrites s.database id) :
    ∃ post', (step rt settings registry s e).database.post? id = some post' ∧
    post'.content = post.content := by
  cases e with
  | request r => exact handle_content rt found (kept r rfl)
  | recoverStaleJobs now => exact ⟨post, found, rfl⟩
  | worker i e =>
    have reacts := react_reacts rt settings registry s.database e (s.workers i)
    simp only [step]
    generalize react rt settings registry s.database e (s.workers i) = r at reacts
    cases reacts with
    | @completes _ job result _ _ done =>
      refine ⟨post.record job result, ?_, ?_⟩
      · rw [completeJob_post? done, found]
        rfl
      · unfold SocialPost.record
        split <;> rfl
    | fails _ done =>
      rcases failJob_eq_ok done with ⟨-, -, rfl⟩ | ⟨-, -, _, -, rfl⟩
      · exact ⟨post, found, rfl⟩
      · exact ⟨post, found, rfl⟩
    | _ => exact ⟨post, found, rfl⟩

theorem JobSpec.Held.step (held : job.Held s.database accepted)
    (there : s.database.job? job.id ≠ none)
    (kept : ∀ r, e = .request r → ¬ r.Rewrites s.database job.socialPostId) :
    job.Held (step rt settings registry s e).database (acceptances rt s e ++ accepted) := by
  obtain ⟨_, found, approved⟩ := held
  obtain ⟨post', found', content⟩ := content_kept found kept
  refine ⟨post', found', ?_⟩
  rw [lookup_recorded there, approved, content]

theorem Stage.Honours.step (honours : stage.Honours s.database accepted job)
    (there : s.database.job? job.id ≠ none)
    (kept : stage = .claimed → ∀ r, e = .request r → ¬ r.Rewrites s.database job.socialPostId) :
    stage.Honours (step rt settings registry s e).database
    (acceptances rt s e ++ accepted) job := by
  unfold Stage.Honours at honours ⊢
  split at honours
  next => exact honours.step there (kept rfl)
  next => rwa [lookup_recorded there]
  next => rwa [lookup_recorded there]
  next => trivial

theorem Progress.finished {attempts : List SocialPublishAttempt}
    {a : Option (Leases.Action Report)} (progress : Progress settings row attempts a row' attempts')
    (finished : row.state.finished = true) : row'.state.finished = true := by
  have settled : row.state ≠ .processing ∧ row.state ≠ .queued ∧ row.state ≠ .retry := by
    refine ⟨?_, ?_, ?_⟩ <;> intro state <;> rw [state] at finished <;> cases finished
  cases progress with
  | kept => exact finished
  | claimed waiting => exact absurd waiting (not_or.mpr ⟨settled.2.1, settled.2.2⟩)
  | recovered processing | completed processing | failed processing =>
    exact absurd processing settled.1

theorem worked_row (known : AllKnown s) (elsewhere : ∀ r, e ≠ .request r) {row' : SocialPublishJob}
    (after' : (step rt settings registry s e).database.job? id = some row') :
    ∃ row, s.database.job? id = some row ∧ row'.toJobSpec = row.toJobSpec ∧
      (row.state.finished = true → row'.state.finished = true) := by
  obtain ⟨a, change, -⟩ := step_change rt settings registry known e id
  cases change with
  | absent before after =>
    rw [after] at after'
    cases after'
  | created before after =>
    -- Only requests insert jobs.
    exfalso
    cases e with
    | request r => exact elsewhere r rfl
    | recoverStaleJobs now => simp [step, recoverStaleJobs, before] at after
    | worker i e =>
      have reacts := react_reacts rt settings registry s.database e (s.workers i)
      simp only [step] at after
      generalize react rt settings registry s.database e (s.workers i) = r at reacts after
      have updated (p : SocialPublishJob → Bool) (change : JobProgress → JobProgress) :
          (s.database.updateJobs p change).job? id = none := by
        rw [job?_updateJobs, before]
        rfl
      cases reacts with
      | claims => cases (updated _ _).symm.trans after
      | completes running done =>
        obtain ⟨-, -, _, attempts, _, -, -, -, rfl⟩ := completeJob_eq_ok done
        cases (updated _ _).symm.trans after
      | fails running done recorded =>
        rcases failJob_eq_ok done with ⟨lost, -⟩ | ⟨-, -, _, -, rfl⟩
        · exact recorded lost
        · cases (updated _ _).symm.trans after
      | _ => cases before.symm.trans after
  | @progressed row row₁ _ before after progress =>
    cases after.symm.trans after'
    exact ⟨row, before, progress.spec, progress.finished⟩

/-! ## What a worker has in hand -/

theorem prepareCall_post (prepared : prepareCall rt settings registry row post world db =
      .ok call) : call.post = post := by
  simp only [prepareCall, bind_eq_ok] at prepared
  obtain ⟨-, -, prepared⟩ := prepared
  split at prepared
  next =>
    simp only [bind_eq_ok] at prepared
    obtain ⟨-, -, prepared⟩ := prepared
    split at prepared
    · obtain ⟨-, -, prepared⟩ := bind_eq_ok.mp prepared
      cases prepared
      rfl
    · cases prepared
      rfl
  next =>
    cases prepared
    rfl
  next =>
    cases prepared
    rfl
  next =>
    cases prepared
    rfl
  all_goals
    obtain ⟨_, -, prepared⟩ := bind_eq_ok.mp prepared
    cases prepared
    rfl

omit [DecidableEq ι] in
theorem proceed_running (running : proceed row₀ next = .running row stage) :
    row₀ = row ∧ (next = .ok stage ∨ ∃ exc, stage = .failing exc) := by
  unfold proceed at running
  split at running
  next =>
    cases running
    exact ⟨rfl, .inl rfl⟩
  next exc =>
    cases running
    exact ⟨rfl, .inr ⟨exc, rfl⟩⟩
  next => cases running

theorem react_honours {e : WorkerEvent ω}
    (rows : ∀ id row, db.job? id = some row → row.contentApprovedAt.isSome = true →
      row.state.finished = false → row.toJobSpec.Held db accepted)
    (honours : ∀ row stage, w = .running row stage → row.contentApprovedAt.isSome = true →
      stage.Honours db accepted row.toJobSpec)
      (running : (react rt settings registry db e w).worker = .running row stage)
    (approved : row.contentApprovedAt.isSome = true) : stage.Honours db accepted row.toJobSpec := by
  cases w with
  | idle =>
    cases e with
    | claim now locked =>
      simp only [react] at running
      rcases claimJobs_one settings now locked db with none_left | ⟨row₀, found, claimable, claimed⟩
      · rw [none_left] at running
        cases running
      · rw [claimed] at running
        cases running
        apply rows row₀.id row₀ found approved
        simp only [SocialPublishJob.claimable, Bool.and_eq_true, Bool.or_eq_true, decide_eq_true_eq]
          at claimable
        rcases claimable.1.1 with state | state <;> rw [state] <;> rfl
    | _ => cases running
  | running row₀ stage₀ =>
    have before := honours row₀ stage₀ rfl
    have rests (same : Worker.running row₀ stage₀ = .running row stage) :
        stage.Honours db accepted row.toJobSpec := by
      cases same
      exact before approved
    cases e with
    | load =>
      cases stage₀ with
      | claimed =>
        simp only [react] at running
        split at running
        next post loaded =>
          cases running
          obtain ⟨post', found, content⟩ := before approved
          simp only [loadPost, bind_eq_ok] at loaded
          obtain ⟨got, there, -, -, returned⟩ := loaded
          cases returned
          cases found.symm.trans (getPost_eq_ok there)
          exact content
        next => cases running
      | _ => exact rests running
    | prepare world =>
      cases stage₀ with
      | loaded post =>
        obtain ⟨rfl, done | ⟨exc, rfl⟩⟩ := proceed_running running
        · cases prepared : prepareCall rt settings registry row₀ post world db with
          | error failure =>
            rw [prepared] at done
            cases done
          | ok call =>
            rw [prepared] at done
            cases done
            have own := prepareCall_post prepared
            cases call with
            | publish post' =>
              obtain rfl : post' = post := own
              exact before approved
            | _ => trivial
        · trivial
      | _ => exact rests running
    | call =>
      cases stage₀ with
      | ready =>
        cases running
        trivial
      | _ => exact rests running
    | answer world =>
      cases stage₀ with
      | calling call =>
        obtain ⟨rfl, done | ⟨exc, rfl⟩⟩ := proceed_running running
        · cases answer : performCall registry row₀ call world with
          | error failure =>
            rw [answer] at done
            cases done
          | ok result =>
            rw [answer] at done
            cases done
            trivial
        · trivial
      | _ => exact rests running
    | complete =>
      cases stage₀ with
      | answered =>
        simp only [react] at running
        split at running
        next => cases running
        next =>
          obtain ⟨rfl, done | ⟨exc, rfl⟩⟩ := proceed_running running
          · cases done
          · trivial
      | _ => exact rests running
    | fail =>
      cases stage₀ with
      | failing =>
        simp only [react] at running
        split at running <;> cases running
      | _ => exact rests running
    | crash => cases running
    | claim => exact rests running

theorem honoured_step (s : State ι × List (UUID × Dict)) (e : Event ι ω)
    (spares : SparesApproved s.1 e) (honoured : Honoured s) :
    Honoured ((approving rt settings registry).step s e) := by
  obtain ⟨s, _⟩ := s
  obtain ⟨known, rows, workers⟩ := honoured
  refine ⟨known.step rt registry e, fun id row' after approved unfinished => ?_,
    fun i row stage running approved => ?_⟩
  · have there {row : SocialPublishJob} (before : s.database.job? id = some row) :
        s.database.job? row.id ≠ none := by
      rw [((s.database.job?_eq_some).mp before).2, before]
      simp
    cases e with
    | request r =>
      rcases handle_approved after approved with before | ⟨_, made, found⟩
      · refine (rows id row' before approved unfinished).step (there before)
          fun r' same rewrites => ?_
        cases same
        have finished := (spares _ rewrites).1 row' ((s.database.job?_eq_some).mp before).1
          rfl approved
        exact Bool.noConfusion (unfinished.symm.trans finished)
      · -- The request is the acceptance, and no edit.
        have no_edit : ¬ r.Rewrites s.database row'.socialPostId := by
          cases r with
          | update => cases made
          | _ => exact not_false
        obtain ⟨post', found', content⟩ := handle_content rt found no_edit
        refine ⟨post', found', ?_⟩
        have own : row'.id = id := ((job?_eq_some _).mp after).2
        simp [approving, recording, acceptances, made, own, content]
    | recoverStaleJobs now | worker i e =>
      obtain ⟨row, before, spec, finished⟩ := worked_row known (by rintro r ⟨⟩) after
      rw [spec] at approved ⊢
      refine (rows id row before approved ?_).step (there before) (by rintro r ⟨⟩)
      rw [← Bool.not_eq_true] at unfinished ⊢
      exact fun ended => unfinished (finished ended)
  · have there {stage' : Stage} (before : s.workers i = .running row stage') :
        s.database.job? row.id ≠ none := by
      obtain ⟨_, known⟩ := known i row stage' before
      rw [known.found]
      simp
    cases e with
    | request r =>
      refine (workers i row stage running approved).step (there running)
        fun claimed r' same rewrites => ?_
      cases same
      have unapproved := (spares _ rewrites).2 i row (claimed ▸ running) rfl
      rw [unapproved] at approved
      cases approved
    | recoverStaleJobs now =>
      exact (workers i row stage running approved).step (there running) (by rintro - r ⟨⟩)
    | worker j e =>
      by_cases same : i = j
      · subst same
        have running : (react rt settings registry s.database e (s.workers i)).worker = .running
            row stage := by
          simpa [approving, recording, system, step] using running
        refine (react_honours rows (workers i) running approved).step ?_ (by rintro - r ⟨⟩)
        have reacts := react_reacts rt settings registry s.database e (s.workers i)
        rcases reacts.running running with ⟨_, before⟩ | ⟨row₀, now, found, rfl, -⟩
        · exact there before
        · rw [show (row₀.claimed settings now).id = row₀.id from rfl, found]
          simp
      · have running : s.workers i = .running row stage := by
          simpa [approving, recording, system, step, same] using running
        exact (workers i row stage running approved).step (there running) (by rintro - r ⟨⟩)

variable (ι) in
omit [DecidableEq ι] in
theorem honoured_initial : Honoured (State.initial ι, []) := by
  refine ⟨books_initial.known, ?_, ?_⟩
  · intro id row found
    cases found
  · intro i row stage running
    cases running

end Kept

/-- In every run in which no edit changes the content of a post while a job with its content
approved is unfinished, what is published for such a job has the content that was approved. -/
theorem approved_content_sent (es : List (Event ι ω))
    (spares : (approving rt settings registry).Along (fun s e => SparesApproved s.1 e)
      (.initial ι, []) es) :
    (approving rt settings registry).Along SendsApproved (.initial ι, []) es := by
  refine along_of_along honoured_step (fun s e _ honoured i job post call running approved => ?_)
    (honoured_initial ι) spares
  exact honoured.workers i job (.ready (.publish post)) running approved

def Event.isEdit : Event ι ω → Bool
  | .request (.update _ _ _) => true
  | _ => false

theorem spares_of_unedited {s : State ι × List (UUID × Dict)}
    (unedited : es.all (fun e => !e.isEdit) = true) :
    (approving rt settings registry).Along (fun s e => SparesApproved s.1 e) s es := by
  induction es generalizing s with
  | nil => trivial
  | cons e es ih =>
    rw [List.all_cons, Bool.and_eq_true] at unedited
    refine ⟨?_, ih unedited.2⟩
    cases e with
    | recoverStaleJobs | worker => trivial
    | request r =>
      intro postId rewrites
      cases r with
      | update => cases unedited.1
      | _ => exact rewrites.elim

end Approval

namespace Sample

def editText : Event Unit PostizExchange :=
  .request (.update 10 (some ⟨[("text", .str "edited")], by decide⟩) none)

def approved : Run := created ++ [enqueue .publish "first" 21] ++ (send (seconds 10)).take 3

def editedAfterApproval : Run :=
  created ++ [enqueue .publish "first" 21, editText] ++ (send (seconds 10)).take 3

def run (es : Run) : State Unit × List (UUID × Dict) :=
  (approving runtime settings (buildRegistry runtime settings)).after (.initial Unit, []) es

def texts? (s : State Unit × List (UUID × Dict)) : Option (Option String × Option String) :=
  match s.1.workers () with
  | .running job (.ready (.publish post)) =>
    if job.contentApprovedAt.isSome then
      some ((PostlyProviderAdapter.payload post [] true).content.text?,
        (s.2.lookup job.id).bind fun content => (content.getD "text" (.str "")).text?)
    else none
  | _ => none

theorem not_sendsApproved (texts : texts? s = some (sent, content)) (other : sent ≠ content) :
    ¬ SendsApproved s (.worker () .call : Event Unit PostizExchange) := by
  intro sends
  unfold texts? at texts
  split at texts
  next job post running =>
    split at texts
    next flagged =>
      have same := sends () job post rfl running flagged
      rw [same] at texts
      cases texts
      exact other rfl
    next => cases texts
  next => cases texts

end Sample

open Sample in
theorem unedited_content_sent : texts? (run approved) = some (some "hello", some "hello") ∧
      (approving runtime settings (buildRegistry runtime settings)).Along SendsApproved
        (.initial Unit, []) (approved ++ [.worker () .call]) :=
  ⟨by decide +kernel, approved_content_sent runtime settings (buildRegistry runtime settings) _
    (spares_of_unedited runtime settings (buildRegistry runtime settings) (by decide))⟩

open Sample in
/-- The content is edited after the publish command was accepted, and what goes out is not what was
approved. -/
theorem edited_content_published : texts? (run editedAfterApproval) =
    some (some "edited", some "hello") ∧
      ¬ (approving runtime settings (buildRegistry runtime settings)).Along SendsApproved
        (.initial Unit, []) (editedAfterApproval ++ [.worker () .call]) := by
  have texts : texts? (run editedAfterApproval) = some (some "edited", some "hello") := by
    decide +kernel
  refine ⟨texts, fun along => ?_⟩
  rw [along_append] at along
  exact not_sendsApproved texts (by decide) along.2.1

end CodestraMiddleware.Social
