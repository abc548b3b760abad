import Pmiri.Replay.Launcher
import Pmiri.Replay.Counts

/-!
# What a launch reports

A launch reports a process that it has created exactly if the process is
assigned to the job and seen to have exited, and nothing fails on the way from
there to the result: a later failure is reported as a launch that was blocked.
-/

namespace Pmiri

open Py

/-! ## Looks at the process -/

/-- The exit code that a look shows. -/
def Look.seen : Look → Option Int
  | .ok code => code
  | .error _ => none

/-- The first of the looks that shows something else than a running process. -/
def news : List Look → Look
  | [] => .ok none
  | .ok none :: looks => news looks
  | look :: _ => look

theorem news_append_of_running {looks : List Look} (h : news looks = .ok none) (looks' : List Look) :
    news (looks ++ looks') = news looks' := by
  induction looks with
  | nil => rfl
  | cons look looks ih =>
    rcases look with e | _ | code
    · cases h
    · exact ih h
    · cases h

theorem news_append_of_ne {looks : List Look} (h : news looks ≠ .ok none) (looks' : List Look) :
    news (looks ++ looks') = news looks := by
  induction looks with
  | nil => exact absurd rfl h
  | cons look looks ih =>
    rcases look with e | _ | code
    · rfl
    · exact ih h
    · rfl

namespace Child

variable {child : Child}

theorem poll_of_polled {code : Int} (h : child.polled = some code) (look : Look) : child.poll look = (.ok (some code), child) := by
  unfold poll
  rw [h]

theorem poll_of_running (h : child.polled = none) (look : Look) : child.poll look = (look, { child with polled := look.seen }) := by
  obtain ⟨created, polled, started, returncode, jobLimitsEnforced, reason⟩ := child
  obtain rfl : polled = none := h
  rcases look with e | code <;> rfl

theorem wait_of_running (h : child.polled = none) (ended : Except LaunchExc Int) :
    child.wait ended = (ended.map fun _ => (), { child with polled := Look.seen (ended.map some) }) := by
  obtain ⟨created, polled, started, returncode, jobLimitsEnforced, reason⟩ := child
  obtain rfl : polled = none := h
  rcases ended with e | code <;> rfl

/-- A look changes nothing but what is known of the exit. -/
theorem poll_snd (child : Child) (look : Look) : (child.poll look).2 = { child with polled := (child.poll look).2.polled } := by
  cases h : child.polled with
  | none => rw [poll_of_running h]
  | some code => rw [poll_of_polled h]

theorem polled_poll {code : Int} {look : Look} (h : (child.poll look).1 = .ok (some code)) : (child.poll look).2.polled = some code := by
  cases hpolled : child.polled with
  | none =>
    rw [poll_of_running hpolled] at h ⊢
    rw [show look = .ok (some code) from h]
    rfl
  | some code' =>
    rw [poll_of_polled hpolled] at h ⊢
    rw [hpolled, Option.some.inj (Except.ok.inj h)]

theorem watch_of_running (h : child.polled = none) (lastLook : Look) (looks : List Look) :
    child.watch lastLook looks =
      ((news (looks ++ [lastLook])).map fun _ => (), { child with polled := (news (looks ++ [lastLook])).seen }) := by
  induction looks generalizing child with
  | nil =>
    rw [watch, poll_of_running h]
    rcases lastLook with e | _ | code <;> rfl
  | cons look looks ih =>
    rw [watch, poll_of_running h]
    rcases look with e | _ | code
    · rfl
    · exact ih rfl
    · rfl

end Child

namespace LaunchSteps

variable {steps : LaunchSteps} {child : Child}

/-- The exit code that comes of waiting for the process. -/
def waiting (steps : LaunchSteps) : Except LaunchExc Int :=
  match news (steps.looks ++ [steps.lastLook, steps.lookAfter]) with
  | .error e => .error e
  | .ok (some code) => .ok code
  | .ok none => steps.waited

theorem supervise_of_running (steps : LaunchSteps) (child : Child) (h : child.polled = none) :
    (∃ e, steps.waiting = .error e ∧ steps.supervise child = (.error e, child)) ∨
      ∃ code reason, steps.waiting = .ok code ∧
        steps.supervise child = (.ok (), { child with polled := some code, returncode := some code, reason }) := by
  have hchild : { child with polled := none } = child := by rw [← h]
  have hlooks : steps.looks ++ [steps.lastLook, steps.lookAfter] = (steps.looks ++ [steps.lastLook]) ++ [steps.lookAfter] := by simp
  unfold supervise waiting
  rw [Child.watch_of_running h, hlooks]
  rcases hnews : news (steps.looks ++ [steps.lastLook]) with e | _ | code
  · rw [news_append_of_ne (by rw [hnews]; nofun), hnews]
    exact .inl ⟨e, rfl, congrArg _ hchild⟩
  · rw [news_append_of_running hnews]
    show _ ∨ _
    rcases hafter : steps.lookAfter with e | _ | code
    · exact .inl ⟨e, rfl, congrArg _ hchild⟩
    · rcases hwaited : steps.waited with e | code
      · exact .inl ⟨e, rfl, congrArg _ hchild⟩
      · exact .inr ⟨code, _, rfl, rfl⟩
    · exact .inr ⟨code, _, rfl, rfl⟩
  · rw [news_append_of_ne (by rw [hnews]; nofun), hnews]
    exact .inr ⟨code, _, rfl, rfl⟩

/-! ## The second `try` -/

/-- A process that is assigned to the job. -/
def assigned : Child := { created := true, jobLimitsEnforced := true, started := true }

/-- What its handler is entered with, if it is. -/
def failure (steps : LaunchSteps) : Option LaunchExc :=
  match steps.closeOutputs, steps.waiting with
  | .error e, _ => some e
  | .ok (), .error e => some e
  | .ok (), .ok _ => none

/-- The process is created. -/
structure Opens (steps : LaunchSteps) : Prop where
  job : steps.openJob = .ok ()
  outputs : steps.openOutputs = .ok ()
  popen : steps.popen = .ok ()

/-- A process that waiting has not shown to have exited is seen to have exited by the handler or after it. -/
def SeenLate (steps : LaunchSteps) : Prop :=
  ∃ code, steps.lookFailed = .ok (some code) ∨ steps.lookFailed = .ok none ∧
    (steps.waitFailed = .ok code ∨ ∃ e, steps.waitFailed = .error e ∧ e.isWaitFailure = true ∧ steps.lookTeardown = .ok (some code))

/-- The process is seen to have exited. -/
structure SeenToExit (steps : LaunchSteps) : Prop where
  handled : ∀ e, steps.failure = some e → e.isProcessFailure = true
  exits : (∃ code, steps.waiting = .ok code) ∨ steps.SeenLate

theorem attempt_of_opens (h : steps.Opens) : steps.attempt = (steps.closeOutputs.bind fun _ => steps.start.1, steps.start.2) := by
  rw [attempt, h.job, Except.bind, h.outputs]

/-- The handler changes nothing but what is known of the exit. -/
theorem recover_snd (steps : LaunchSteps) (child : Child) : (steps.recover child).2 = { child with polled := (steps.recover child).2.polled } := by
  unfold recover
  split
  · cases h : child.polled with
    | some code => rw [Child.poll_of_polled h]
    | none =>
      rw [Child.poll_of_running h]
      rcases steps.lookFailed with e | _ | code
      · rfl
      · dsimp only
        rw [Child.wait_of_running rfl]
        rcases steps.waitFailed with e | code <;> rfl
      · rfl
  · rfl

theorem recover_of_polled (steps : LaunchSteps) {code : Int} (h : child.polled = some code) : steps.recover child = (.ok (), child) := by
  unfold recover
  split
  · rw [Child.poll_of_polled h]
  · rfl

/-- A process that may still run is seen to have exited, by the handler or by the look after it. -/
theorem recover_seen_iff (hcreated : child.created = true) (h : child.polled = none) :
    ((steps.recover child).1 = .ok () ∧ ∃ code, ((steps.recover child).2.poll steps.lookTeardown).1 = .ok (some code)) ↔
      steps.SeenLate := by
  unfold recover SeenLate
  rw [if_pos hcreated, Child.poll_of_running h]
  rcases steps.lookFailed with e | _ | code
  · simp
  · dsimp only
    rw [Child.wait_of_running rfl]
    rcases steps.waitFailed with e | code
    · rw [Child.poll_of_running rfl]
      cases he : e.isWaitFailure <;> simp [Except.map, he]
    · rw [Child.poll_of_polled rfl]
      simp [Except.map]
  · rw [Child.poll_of_polled rfl]
    simp

theorem poll_reason (child : Child) (reason : String) (look : Look) :
    ({ child with reason }.poll look).1 = (child.poll look).1 := by
  obtain ⟨created, polled, started, returncode, jobLimitsEnforced, reason'⟩ := child
  cases polled with
  | none => rcases look with e | code <;> rfl
  | some code => rfl

/-- What comes of an exception. -/
theorem run_of_error {e : LaunchExc} (h : steps.attempt = (.error e, child)) :
    (steps.run.1 = .ok none ↔ e.isProcessFailure = true ∧ child.started = true ∧ (steps.recover child).1 = .ok ()) ∧
      (e.isProcessFailure = true → (steps.recover child).1 = .ok () →
        steps.run.2 = { (steps.recover child).2 with reason := e.text }) := by
  have hsnd := steps.recover_snd child
  unfold run
  rw [h]
  dsimp only
  cases hfails : e.isProcessFailure with
  | false => simp
  | true =>
    rcases hrecover : steps.recover child with ⟨e' | _, child'⟩
    · simp
    · rw [hrecover] at hsnd
      have hstarted : child'.started = child.started := by
        have := congrArg Child.started hsnd
        exact this
      refine ⟨?_, fun _ _ => rfl⟩
      rw [← hstarted]
      cases hs : child'.started <;> simp [hs]

/-- From the first `try` on, only what is known of the exit and the reason change. -/
theorem run_snd (steps : LaunchSteps) : ∃ polled reason, steps.run.2 = { steps.attempt.2 with polled, reason } := by
  unfold run
  rcases steps.attempt with ⟨e | _, child⟩
  · dsimp only
    split
    · have hsnd := steps.recover_snd child
      rcases hrecover : steps.recover child with ⟨e' | _, child'⟩
      · rw [hrecover] at hsnd
        exact ⟨_, _, hsnd⟩
      · rw [hrecover] at hsnd
        exact ⟨_, e.text, congrArg (fun c : Child => { c with reason := e.text }) hsnd⟩
    · exact ⟨_, _, rfl⟩
  · exact ⟨_, _, rfl⟩

theorem start_of_assigned (hopens : steps.Opens) (hassign : steps.assign = .ok ()) :
    steps.start = steps.supervise assigned := by
  rw [start, hopens.popen, hassign, assigned]

theorem run_created (hopens : steps.Opens) : steps.run.2.created = true ∧ (steps.assign = .ok () → steps.run.2.started = true) := by
  obtain ⟨polled, reason, hrun⟩ := run_snd steps
  rw [hrun, attempt_of_opens hopens]
  rcases hassign : steps.assign with e | _
  · rw [start, hopens.popen, hassign]
    exact ⟨rfl, nofun⟩
  · rw [start_of_assigned hopens hassign]
    rcases steps.supervise_of_running assigned rfl with
      ⟨e, -, hsupervise⟩ | ⟨code, reason, -, hsupervise⟩
    · rw [hsupervise]
      exact ⟨rfl, fun _ => rfl⟩
    · rw [hsupervise]
      exact ⟨rfl, fun _ => rfl⟩

/-- A process that was not assigned is not one that the launch goes on with. -/
theorem run_of_unassigned (hopens : steps.Opens) {e : LaunchExc} (hassign : steps.assign = .error e) : steps.run.1 ≠ .ok none := by
  obtain ⟨e', hattempt⟩ : ∃ e', steps.attempt = (.error e', { created := true }) := by
    rw [attempt_of_opens hopens, start, hopens.popen, hassign]
    rcases steps.closeOutputs with e' | _
    · exact ⟨e', rfl⟩
    · exact ⟨e, rfl⟩
  intro h
  obtain ⟨-, hstarted, -⟩ := (run_of_error hattempt).1.mp h
  cases hstarted

/-- Waiting has raised an exception: what is seen of the exit is seen by the handler or after it. -/
theorem exited_iff_of_error (hopens : steps.Opens) (hassign : steps.assign = .ok ()) {e : LaunchExc} (hwaiting : steps.waiting = .error e)
    (hsupervise : steps.supervise assigned = (.error e, assigned)) :
    (steps.run.1 = .ok none ∧ ∃ code, (steps.run.2.poll steps.lookTeardown).1 = .ok (some code)) ↔ steps.SeenToExit := by
  obtain ⟨e', hfailure, hattempt⟩ : ∃ e', steps.failure = some e' ∧ steps.attempt = (.error e', assigned) := by
    rw [attempt_of_opens hopens, start_of_assigned hopens hassign, hsupervise, failure, hwaiting]
    rcases steps.closeOutputs with e' | _
    · exact ⟨e', rfl, rfl⟩
    · exact ⟨e, rfl, rfl⟩
  obtain ⟨hrun, hchild⟩ := run_of_error hattempt
  constructor
  · intro h
    obtain ⟨hnone, code, hcode⟩ := h
    obtain ⟨hfails, -, hrecover⟩ := hrun.mp hnone
    rw [hchild hfails hrecover, poll_reason] at hcode
    refine ⟨fun e he => ?_, .inr ((recover_seen_iff rfl rfl).mp ⟨hrecover, code, hcode⟩)⟩
    rwa [← Option.some.inj (hfailure.symm.trans he)]
  · intro h
    have hfails := h.handled e' hfailure
    have hlate : steps.SeenLate := by
      refine h.exits.resolve_left fun hwaited => ?_
      obtain ⟨code, hcode⟩ := hwaited
      rw [hwaiting] at hcode
      cases hcode
    obtain ⟨hrecover, code, hcode⟩ := (recover_seen_iff (show assigned.created = true from rfl) rfl).mpr hlate
    refine ⟨hrun.mpr ⟨hfails, rfl, hrecover⟩, code, ?_⟩
    rwa [hchild hfails hrecover, poll_reason]

/-- Waiting has seen the exit, and no look after it asks for it again: it is lost only to an exception that is not handled. -/
theorem exited_iff_of_exit (hopens : steps.Opens) (hassign : steps.assign = .ok ()) {code : Int} {child : Child}
    (hwaiting : steps.waiting = .ok code) (hsupervise : steps.supervise assigned = (.ok (), child)) (hstarted : child.started = true)
    (hpolled : child.polled = some code) :
    (steps.run.1 = .ok none ∧ ∃ code, (steps.run.2.poll steps.lookTeardown).1 = .ok (some code)) ↔ steps.SeenToExit := by
  have hattempt := attempt_of_opens hopens
  rw [start_of_assigned hopens hassign, hsupervise] at hattempt
  rcases hclose : steps.closeOutputs with e | _
  · have hfailure : steps.failure = some e := by rw [failure, hclose]
    rw [hclose] at hattempt
    obtain ⟨hrun, hchild⟩ := run_of_error hattempt
    have hrecover := steps.recover_of_polled hpolled
    constructor
    · intro h
      obtain ⟨hfails, -, -⟩ := hrun.mp h.1
      refine ⟨fun e' he => ?_, .inl ⟨code, hwaiting⟩⟩
      rwa [← Option.some.inj (hfailure.symm.trans he)]
    · intro h
      have hfails := h.handled e hfailure
      refine ⟨hrun.mpr ⟨hfails, hstarted, congrArg Prod.fst hrecover⟩, code, ?_⟩
      rw [hchild hfails (congrArg Prod.fst hrecover), poll_reason, hrecover, Child.poll_of_polled hpolled]
  · have hfailure : steps.failure = none := by rw [failure, hclose, hwaiting]
    have hrun : steps.run = (.ok none, child) := by
      rw [run, hattempt, hclose]
      rfl
    rw [hrun]
    refine iff_of_true ⟨rfl, code, by rw [Child.poll_of_polled hpolled]⟩ ⟨fun e he => ?_, .inl ⟨code, hwaiting⟩⟩
    rw [hfailure] at he
    cases he

theorem exited_iff (hopens : steps.Opens) (hassign : steps.assign = .ok ()) :
    (steps.run.1 = .ok none ∧ ∃ code, (steps.run.2.poll steps.lookTeardown).1 = .ok (some code)) ↔ steps.SeenToExit := by
  rcases steps.supervise_of_running assigned rfl with ⟨e, hwaiting, hsupervise⟩ | ⟨code, reason, hwaiting, hsupervise⟩
  · exact exited_iff_of_error hopens hassign hwaiting hsupervise
  · exact exited_iff_of_exit hopens hassign hwaiting hsupervise rfl rfl

end LaunchSteps

/-! ## What a result says -/

/-- No process, and nothing said of one. -/
structure Child.Idle (child : Child) : Prop where
  created : child.created = false
  started : child.started = false
  returncode : child.returncode = none
  jobLimitsEnforced : child.jobLimitsEnforced = false

theorem LaunchSteps.run_idle {steps : LaunchSteps} (h : ¬ steps.Opens) : steps.run.1 ≠ .ok none ∧ steps.run.2.Idle := by
  obtain ⟨e, hattempt⟩ : ∃ e, steps.attempt = (.error e, {}) := by
    unfold LaunchSteps.attempt LaunchSteps.start
    rcases hjob : steps.openJob with e | _
    · exact ⟨e, rfl⟩
    rcases houtputs : steps.openOutputs with e | _
    · exact ⟨e, rfl⟩
    rcases hpopen : steps.popen with e | _
    · rcases steps.closeOutputs with e' | _
      · exact ⟨e', rfl⟩
      · exact ⟨e, rfl⟩
    · exact absurd ⟨hjob, houtputs, hpopen⟩ h
  constructor
  · intro hnone
    obtain ⟨-, hstarted, -⟩ := (LaunchSteps.run_of_error hattempt).1.mp hnone
    cases hstarted
  · obtain ⟨polled, reason, hrun⟩ := steps.run_snd
    rw [hrun, hattempt]
    exact ⟨rfl, rfl, rfl, rfl⟩

/-- What the `status` of a result can be. -/
def launchStatuses : List String := ["BLOCKED", "ISOLATION_VIOLATION", "VALIDATION_ERROR", "RECORDED", "FAIL"]

section

variable [Runtime]

/-- Every value of a result is in its own field. -/
structure LaunchResult.Placed (steps : LaunchSteps) (call : LaunchCall) (child : Child) (r : LaunchResult) : Prop where
  caseId : r.caseId = .str call.caseId
  status : ∃ s ∈ launchStatuses, r.status = .str s
  reason : ∃ s, r.reason = .str s
  started : r.started = .bool child.started
  returncode : r.returncode = optInt child.returncode
  rootFingerprint : r.rootFingerprint = .none ∨ ∃ admission root, admitLaunch call = .ok (.ok admission) ∧
    steps.prepare call admission = .ok (.ok root) ∧ r.rootFingerprint = .str root
  stdoutFingerprint : r.stdoutFingerprint = .none ∨ ∃ stdout, steps.readStdout = .ok stdout ∧
    r.stdoutFingerprint = .str (sha256Bytes stdout)
  stderrFingerprint : r.stderrFingerprint = .none ∨ ∃ stderr, steps.readStderr = .ok stderr ∧
    r.stderrFingerprint = .str (sha256Bytes stderr)
  artifactBundleFingerprint : r.artifactBundleFingerprint = .none ∨ ∃ sealedCase, steps.sealDirectory = .ok sealedCase ∧
    r.artifactBundleFingerprint = .str sealedCase.bundleSha256
  persistedDir : r.persistedDir = .none ∨ ∃ admission destination, admitLaunch call = .ok (.ok admission) ∧
    admission.destination = some destination ∧ r.persistedDir = .str (windowsText destination)
  jobLimitsEnforced : r.jobLimitsEnforced = .bool child.jobLimitsEnforced
  teardownVerified : r.teardownVerified = .bool child.exited
  evidenceRef : r.evidenceRef = .none ∨ r.evidenceRef = .str ("evidence://local-launch/" ++ call.caseId)

/-- A launch reports its process: what is returned says that it was started, and that it may still run if that is so. -/
structure Reported (steps : LaunchSteps) (call : LaunchCall) : Prop where
  created : (launchPinnedRunner steps call).2.created = true → ∃ r, (launchPinnedRunner steps call).1 = .ok r ∧
    r.started = .bool true ∧ r.status ≠ .str "BLOCKED"
  unverified : (launchPinnedRunner steps call).2.created = true → (launchPinnedRunner steps call).2.polled = none →
    ∃ r, (launchPinnedRunner steps call).1 = .ok r ∧ r.status = .str "ISOLATION_VIOLATION" ∧ r.teardownVerified = .bool false
  placed : ∀ r, (launchPinnedRunner steps call).1 = .ok r → r.Placed steps call (launchPinnedRunner steps call).2

theorem placed_blockedLaunch {steps : LaunchSteps} {call : LaunchCall} {child : Child} (h : child.Idle) (reason : String) :
    (blockedLaunch call.caseId reason).Placed steps call child where
  caseId := rfl
  status := ⟨_, List.mem_cons_self, rfl⟩
  reason := ⟨_, rfl⟩
  started := by rw [h.started]; rfl
  returncode := by rw [h.returncode]; rfl
  rootFingerprint := .inl rfl
  stdoutFingerprint := .inl rfl
  stderrFingerprint := .inl rfl
  artifactBundleFingerprint := .inl rfl
  persistedDir := .inl rfl
  jobLimitsEnforced := by rw [h.jobLimitsEnforced]; rfl
  teardownVerified := by rw [Child.exited, h.created]; rfl
  evidenceRef := .inl rfl

/-! ## The steps after the process -/

namespace LaunchSteps

variable {steps : LaunchSteps} {call : LaunchCall} {admission : LaunchAdmission} {root : String} {child : Child}

/-- Nothing fails after the process has exited. -/
structure Finishes (steps : LaunchSteps) (destination : Option (List String)) : Prop where
  stdout : ∃ stdout, steps.readStdout = .ok stdout
  stderr : ∃ stderr, steps.readStderr = .ok stderr
  record : steps.writeRecord = .ok ()
  sealed : ∃ sealedCase, steps.sealDirectory = .ok sealedCase
  verified : ∃ reason, steps.verifySeal = .ok (true, reason)
  persisted : destination.isSome = true → steps.persist = .ok ()

/-- A report with its values in their fields is one of steps that do not fail: with a seal that is not verified, the
value of `teardown_verified` is the limits'. -/
theorem Finishes.of_report {caseId : String} {destination : Option (List String)} {r : LaunchResult}
    (h : steps.report caseId destination root child = .ok r) (hlimits : r.jobLimitsEnforced ≠ .none) : steps.Finishes destination := by
  obtain ⟨stdout, hstdout, h⟩ := bind_ok.mp h
  obtain ⟨stderr, hstderr, h⟩ := bind_ok.mp h
  obtain ⟨hrecord, h⟩ := seq_ok.mp h
  obtain ⟨sealedCase, hsealed, h⟩ := bind_ok.mp h
  obtain ⟨⟨valid, reason⟩, hverified, h⟩ := bind_ok.mp h
  cases valid with
  | false =>
    cases h
    exact absurd rfl hlimits
  | true =>
    obtain ⟨hpersist, -⟩ := seq_ok.mp h
    exact ⟨⟨_, hstdout⟩, ⟨_, hstderr⟩, hrecord, ⟨_, hsealed⟩, ⟨_, hverified⟩, fun hsome => by rwa [persistTo, if_pos hsome] at hpersist⟩

theorem Finishes.report {destination : Option (List String)} (h : steps.Finishes destination)
    (hadmitted : admitLaunch call = .ok (.ok admission)) (hdestination : admission.destination = destination)
    (hprepare : steps.prepare call admission = .ok (.ok root)) (hstarted : child.started = true) (hexited : child.exited = true) :
    ∃ r, steps.report call.caseId destination root child = .ok r ∧ r.started = .bool true ∧ r.status ≠ .str "BLOCKED" ∧
      r.Placed steps call child := by
  obtain ⟨stdout, hstdout⟩ := h.stdout
  obtain ⟨stderr, hstderr⟩ := h.stderr
  obtain ⟨sealedCase, hsealed⟩ := h.sealed
  obtain ⟨reason, hverified⟩ := h.verified
  have hpersist : steps.persistTo destination = .ok () := by
    unfold persistTo
    split
    · exact h.persisted ‹_›
    · rfl
  refine ⟨_, bind_ok.mpr ⟨_, hstdout, bind_ok.mpr ⟨_, hstderr, seq_ok.mpr ⟨h.record, bind_ok.mpr ⟨_, hsealed,
    bind_ok.mpr ⟨(true, reason), hverified, seq_ok.mpr ⟨hpersist, rfl⟩⟩⟩⟩⟩⟩, congrArg Val.bool hstarted, ?_, ?_⟩
  · show Val.str (if child.returncode = some 0 then "RECORDED" else "FAIL") ≠ _
    split <;> simp
  · refine ⟨rfl, ⟨_, ?_, rfl⟩, ⟨_, rfl⟩, rfl, rfl, .inr ⟨_, _, hadmitted, hprepare, rfl⟩, .inr ⟨_, hstdout, rfl⟩, .inr ⟨_, hstderr, rfl⟩,
      .inr ⟨_, hsealed, rfl⟩, ?_, rfl, congrArg Val.bool hexited.symm, .inr rfl⟩
    · split <;> simp [launchStatuses]
    · cases destination with
      | none => exact .inl rfl
      | some destination => exact .inr ⟨_, _, hadmitted, hdestination, rfl⟩

/-- The launch gets to the process, and creates it. -/
structure Creates (steps : LaunchSteps) (call : LaunchCall) (admission : LaunchAdmission) (root : String) : Prop where
  command : call.commandValid = true
  admitted : admitLaunch call = .ok (.ok admission)
  parent : steps.resolveTempParent = .ok ()
  temporary : steps.makeTemporary = .ok ()
  prepared : steps.prepare call admission = .ok (.ok root)
  opens : steps.Opens

omit [Runtime] in
/-- Nothing fails from the process to the result. -/
structure Undisturbed (steps : LaunchSteps) (destination : Option (List String)) : Prop where
  assigned : steps.assign = .ok ()
  exits : steps.SeenToExit
  finishes : steps.Finishes destination
  removed : steps.removeTemporary = .ok ()

theorem launch_of_creates (h : steps.Creates call admission root) : launchPinnedRunner steps call =
    (catchLaunch call.caseId (steps.removeTemporary.bind fun _ => (steps.carryOut call.caseId admission.destination root).1),
      (steps.carryOut call.caseId admission.destination root).2) := by
  unfold launchPinnedRunner inTemporary
  simp only [h.command, h.admitted, h.parent, h.temporary, h.prepared, Bool.not_true, Bool.false_eq_true, if_false]

theorem carryOut_created (hopens : steps.Opens) (caseId : String) (destination : Option (List String)) :
    (steps.carryOut caseId destination root).2.created = true := by
  have hcreated := (run_created hopens).1
  unfold carryOut
  rcases hrun : steps.run with ⟨e | _ | reason, child⟩
  · rwa [hrun] at hcreated
  · rw [hrun] at hcreated
    have hpoll := congrArg Child.created (child.poll_snd steps.lookTeardown)
    show (steps.teardown caseId destination root child).2.created = true
    unfold teardown
    rw [if_pos hcreated]
    rcases hlook : child.poll steps.lookTeardown with ⟨e | _ | code, child'⟩ <;> rw [hlook] at hpoll <;> exact hpoll.trans hcreated
  · rwa [hrun] at hcreated

omit [Runtime] in
theorem catchLaunch_ok {caseId : String} {x : Except LaunchExc LaunchResult} {r : LaunchResult} (h : catchLaunch caseId x = .ok r)
    (hstatus : r.status ≠ .str "BLOCKED") : x = .ok r := by
  unfold catchLaunch at h
  split at h
  · exact h
  · split at h
    · cases h
      exact absurd rfl hstatus
    · cases h

/-! ## A launch without a process -/

omit [Runtime] in
/-- Nothing is returned but that the launch was blocked. -/
def OnlyBlocks (caseId : String) (x : Except LaunchExc LaunchResult) : Prop := ∀ r, x = .ok r → ∃ reason, r = blockedLaunch caseId reason

omit [Runtime] in
theorem onlyBlocks_blocked (caseId reason : String) : OnlyBlocks caseId (.ok (blockedLaunch caseId reason)) :=
  fun _ hr => ⟨reason, (Except.ok.inj hr).symm⟩

omit [Runtime] in
theorem onlyBlocks_error (caseId : String) (e : LaunchExc) : OnlyBlocks caseId (.error e) := nofun

omit [Runtime] in
theorem OnlyBlocks.caught {caseId : String} {x : Except LaunchExc LaunchResult} (h : OnlyBlocks caseId x) :
    OnlyBlocks caseId (catchLaunch caseId x) := by
  unfold catchLaunch
  split
  · exact h
  · split
    · exact onlyBlocks_blocked _ _
    · exact onlyBlocks_error _ _

omit [Runtime] in
theorem OnlyBlocks.after {caseId : String} {x : Except LaunchExc LaunchResult} (h : OnlyBlocks caseId x) (y : Except LaunchExc Unit) :
    OnlyBlocks caseId (y.bind fun _ => x) := by
  rcases y with e | _
  · exact onlyBlocks_error _ _
  · exact h

theorem carryOut_idle (h : ¬ steps.Opens) (caseId : String) (destination : Option (List String)) :
    (steps.carryOut caseId destination root).2.Idle ∧ OnlyBlocks caseId (steps.carryOut caseId destination root).1 := by
  obtain ⟨hnone, hidle⟩ := run_idle h
  unfold carryOut
  rcases hrun : steps.run with ⟨e | _ | reason, child⟩
  · rw [hrun] at hidle
    exact ⟨hidle, onlyBlocks_error _ _⟩
  · exact absurd (congrArg Prod.fst hrun) hnone
  · rw [hrun] at hidle
    exact ⟨hidle, onlyBlocks_blocked _ _⟩

/-- Out of a launch that creates no process comes nothing that says more than that it was blocked. -/
theorem launch_idle (h : ∀ admission root, ¬ steps.Creates call admission root) :
    (launchPinnedRunner steps call).2.Idle ∧ OnlyBlocks call.caseId (launchPinnedRunner steps call).1 := by
  have hidle : ({} : Child).Idle := ⟨rfl, rfl, rfl, rfl⟩
  unfold launchPinnedRunner
  cases hcommand : call.commandValid with
  | false => exact ⟨hidle, onlyBlocks_blocked _ _⟩
  | true =>
    rw [Bool.not_true, if_neg Bool.false_ne_true]
    rcases hadmitted : admitLaunch call with e | reason | admission
    · dsimp only
      split
      · exact ⟨hidle, onlyBlocks_blocked _ _⟩
      · exact ⟨hidle, onlyBlocks_error _ _⟩
    · exact ⟨hidle, onlyBlocks_blocked _ _⟩
    rcases hparent : steps.resolveTempParent with e | _
    · exact ⟨hidle, onlyBlocks_error _ _⟩
    rcases htemporary : steps.makeTemporary with e | _
    · exact ⟨hidle, (onlyBlocks_error _ e).caught⟩
    suffices hin : (steps.inTemporary call admission).2.Idle ∧ OnlyBlocks call.caseId (steps.inTemporary call admission).1 from
      ⟨hin.1, (hin.2.after _).caught⟩
    unfold inTemporary
    rcases hprepare : steps.prepare call admission with e | reason | root
    · exact ⟨hidle, onlyBlocks_error _ _⟩
    · exact ⟨hidle, onlyBlocks_blocked _ _⟩
    · exact carryOut_idle (fun hopens => h admission root ⟨hcommand, hadmitted, hparent, htemporary, hprepare, hopens⟩) _ _

/-! ## What is reported -/

theorem Undisturbed.of_reported (h : Reported steps call) (hcreates : steps.Creates call admission root) :
    steps.Undisturbed admission.destination := by
  have hlaunch := launch_of_creates hcreates
  obtain ⟨r, hr, -, hstatus⟩ := h.created (by rw [hlaunch]; exact carryOut_created hcreates.opens _ _)
  have hplaced := (h.placed r hr).jobLimitsEnforced
  rw [hlaunch] at hr
  have hcarried := catchLaunch_ok hr hstatus
  rcases hremoved : steps.removeTemporary with e | _
  · rw [hremoved] at hcarried
    cases hcarried
  rw [hremoved] at hcarried
  have hcarried : (steps.carryOut call.caseId admission.destination root).1 = .ok r := hcarried
  unfold carryOut at hcarried
  rcases hrun : steps.run with ⟨e | _ | reason, child⟩ <;> rw [hrun] at hcarried
  · cases hcarried
  · have hcreated := (run_created hcreates.opens).1
    rw [hrun] at hcreated
    unfold teardown at hcarried
    dsimp only at hcarried
    rw [if_pos hcreated] at hcarried
    rcases hlook : child.poll steps.lookTeardown with ⟨e | _ | code, child'⟩ <;> rw [hlook] at hcarried
    · cases hcarried
    · cases hcarried
    · rcases hassign : steps.assign with e | _
      · exact absurd (congrArg Prod.fst hrun) (run_of_unassigned hcreates.opens hassign)
      refine ⟨hassign, (exited_iff hcreates.opens hassign).mp ⟨congrArg Prod.fst hrun, code, ?_⟩,
        Finishes.of_report hcarried (by rw [hplaced]; nofun), hremoved⟩
      rw [hrun]
      exact congrArg Prod.fst hlook
  · cases hcarried
    exact absurd rfl hstatus

theorem Undisturbed.reported (h : steps.Undisturbed admission.destination) (hcreates : steps.Creates call admission root) :
    Reported steps call := by
  obtain ⟨hrun, code, hlook⟩ := (exited_iff hcreates.opens h.assigned).mpr h.exits
  obtain ⟨hcreated, hstarted⟩ := run_created hcreates.opens
  have hsnd := steps.run.2.poll_snd steps.lookTeardown
  have hpolled := Child.polled_poll hlook
  generalize hchild : (steps.run.2.poll steps.lookTeardown).2 = child at hsnd hpolled
  have hcreated' : child.created = true := (congrArg Child.created hsnd).trans hcreated
  have hstarted' : child.started = true := (congrArg Child.started hsnd).trans (hstarted h.assigned)
  have hexited : child.exited = true := by rw [Child.exited, hcreated', hpolled]; rfl
  obtain ⟨r, hreport, hr, hstatus, hplaced⟩ := h.finishes.report hcreates.admitted rfl hcreates.prepared hstarted' hexited
  have hcarried : steps.carryOut call.caseId admission.destination root = (.ok r, child) := by
    have hpair : steps.run = (.ok none, steps.run.2) := Prod.ext hrun rfl
    have hpoll : steps.run.2.poll steps.lookTeardown = (.ok (some code), child) := Prod.ext hlook hchild
    unfold carryOut teardown
    rw [hpair]
    dsimp only
    rw [if_pos hcreated, hpoll]
    exact congrArg (Prod.mk · child) hreport
  have hlaunch : launchPinnedRunner steps call = (.ok r, child) := by
    rw [launch_of_creates hcreates, hcarried, h.removed]
    rfl
  refine ⟨?_, ?_, ?_⟩ <;> rw [hlaunch]
  · exact fun _ => ⟨r, rfl, hr, hstatus⟩
  · intro _ hnone
    rw [hpolled] at hnone
    cases hnone
  · intro r' hr'
    rwa [← Except.ok.inj hr']

end LaunchSteps

open LaunchSteps in
/-- A launch reports its process exactly if nothing fails from its creation to the result. -/
theorem launch_reported_iff (steps : LaunchSteps) (call : LaunchCall) :
    Reported steps call ↔ ∀ admission root, steps.Creates call admission root → steps.Undisturbed admission.destination := by
  constructor
  · exact fun h admission root hcreates => .of_reported h hcreates
  · intro h
    by_cases hcreates : ∃ admission root, steps.Creates call admission root
    · obtain ⟨admission, root, hcreates⟩ := hcreates
      exact (h admission root hcreates).reported hcreates
    · obtain ⟨hidle, hblocked⟩ := launch_idle fun admission root h => hcreates ⟨admission, root, h⟩
      refine ⟨fun hcreated => ?_, fun hcreated => ?_, fun r hr => ?_⟩
      · rw [hidle.created] at hcreated
        cases hcreated
      · rw [hidle.created] at hcreated
        cases hcreated
      · obtain ⟨reason, rfl⟩ := hblocked r hr
        exact placed_blockedLaunch hidle reason

/-! ## A process that is not assigned -/

def launchFingerprint (name : String) : String :=
  if name = "profile" then sha256Json ({} : ResourceProfile).asDict.toVal else sha256Bytes .empty

def launchFingerprints : Dict := .ofItems (REQUIRED_FINGERPRINTS.map fun name => (name, .str (launchFingerprint name)))

def launchAttested : Dict := (exampleAttested "R-FC-01-P").insert "fingerprints" launchFingerprints.toVal

def launchAttestation : Dict := launchAttested.insert "attestation_sha256" (.str (sha256Json launchAttested.toVal))

def exampleLaunch : LaunchCall where
  caseId := "R-FC-01-P"
  identity := exampleRun.identity
  attestation := .ok launchAttestation.toVal
  fingerprints := launchFingerprints
  fingerprintPaths := (REQUIRED_FINGERPRINTS.filter (· != "profile")).map fun name => (name, .ok .empty)
  argv := [.str "runner.exe"]
  inputs := []

theorem isSha256_launchFingerprint (name : String) : isSha256 (.str (launchFingerprint name)) = true := by
  unfold launchFingerprint
  split
  · exact isSha256_sha256Json _
  · exact isSha256_sha256Bytes _

theorem get_launchFingerprints : ∀ name ∈ REQUIRED_FINGERPRINTS, launchFingerprints.get name = .str (launchFingerprint name) := by
  simp only [REQUIRED_FINGERPRINTS, List.forall_mem_cons, List.not_mem_nil, false_imp_iff, implies_true, and_true]
  exact ⟨rfl, rfl, rfl, rfl, rfl, rfl, rfl⟩

theorem loadAttestation_launch : loadAttestation (.ok launchAttestation.toVal) = .ok (launchAttestation, exampleIsolation) := by
  have hdigest : raiseIf (!isSha256 (launchAttestation.get "attestation_sha256") ||
      !(launchAttestation.get "attestation_sha256").eq (.str (sha256Json (launchAttestation.without "attestation_sha256").toVal)))
      (attestationError "attestation_digest_mismatch") = .ok () := by
    have hwithout : launchAttestation.without "attestation_sha256" = launchAttested := by
      refine Dict.without_insert ?_
      rw [launchAttested, Dict.mem_keys_insert]
      decide
    rw [hwithout, launchAttestation, Dict.get_insert_self, isSha256_sha256Json, Val.eq_refl]
    rfl
  have hall : ∀ key ∈ ATTESTATION_FINGERPRINTS, launchFingerprints.toVal.getOf key = .ok (.str (launchFingerprint key)) := by
    exact fun key hkey => congrArg Except.ok (get_launchFingerprints key hkey)
  have hany : (ATTESTATION_FINGERPRINTS.anyM fun key => do return !isSha256 (← launchFingerprints.toVal.getOf key)) = .ok false := by
    refine anyM_ok_false.mpr fun key hkey => bind_ok.mpr ⟨_, hall key hkey, ?_⟩
    rw [isSha256_launchFingerprint]
    rfl
  unfold loadAttestation
  refine bind_ok.mpr ⟨_, rfl, bind_ok.mpr ⟨_, dictOr_ok.mpr (Val.asDict_toVal _), seq_ok.mpr ⟨rfl, seq_ok.mpr ⟨hdigest, ?_⟩⟩⟩⟩
  refine seq_ok.mpr ⟨rfl, seq_ok.mpr ⟨rfl, seq_ok.mpr ⟨rfl, bind_ok.mpr ⟨_, rfl, seq_ok.mpr ⟨rfl, seq_ok.mpr ⟨rfl, ?_⟩⟩⟩⟩⟩⟩
  exact seq_ok.mpr ⟨raiseIfM_ok.mpr hany, rfl⟩

theorem materialize_of_get {fingerprints : Dict} {content : ByteArray} {names : List String}
    (h : ∀ name ∈ names, fingerprints.get name = .str (sha256Bytes content)) :
    materialize fingerprints (names.map fun name => (name, .ok content)) = .ok (names.map fun name => (name, content)) := by
  induction names with
  | nil => rfl
  | cons name names ih =>
    obtain ⟨hname, hnames⟩ := List.forall_mem_cons.mp h
    exact bind_ok.mpr ⟨_, rfl, seq_ok.mpr ⟨raiseIf_ok.mpr (differs_false.mpr hname), bind_ok.mpr ⟨_, ih hnames, rfl⟩⟩⟩

omit [Runtime] in
/-- The order of the items makes no difference. -/
theorem toVal_eq_sortItems (d : Dict) : d.toVal.eq (.dict (sortItems d.items)) = true := by
  rw [Dict.toVal, Val.eq, sortItems, List.length_insertionSort, beq_self_eq_true, Bool.true_and, Val.eqItems_iff]
  exact fun item hitem => ⟨item, (List.mem_insertionSort _).mpr hitem, rfl, Val.eq_refl _⟩

def exampleAdmission : LaunchAdmission where
  profile := {}
  materialized := (REQUIRED_FINGERPRINTS.filter (· != "profile")).map fun name => (name, .empty)
  destination := none

theorem admitLaunch_example : admitLaunch exampleLaunch = .ok (.ok exampleAdmission) := by
  have hget : ∀ name ∈ REQUIRED_FINGERPRINTS.filter (· != "profile"), launchFingerprints.get name = .str (sha256Bytes .empty) := by
    intro name hname
    obtain ⟨hmem, hne⟩ := List.mem_filter.mp hname
    rw [get_launchFingerprints name hmem, launchFingerprint, if_neg (by simpa using hne)]
  have hinvalid : (launchFingerprints.items.any fun item => !isSha256 item.2) = false := by
    rw [List.any_eq_false]
    intro item hitem
    obtain ⟨name, -, rfl⟩ := List.mem_map.mp (Dict.mem_ofItems hitem)
    rw [isSha256_launchFingerprint]
    exact Bool.false_ne_true
  have hprofile : launchFingerprints.get "profile" = .str (sha256Json ({} : ResourceProfile).asDict.toVal) := rfl
  have hinputs : fingerprintInputs exampleLaunch {} = .ok exampleAdmission.materialized :=
    seq_ok.mpr ⟨rfl, seq_ok.mpr ⟨rfl, seq_ok.mpr ⟨raiseIf_ok.mpr hinvalid, bind_ok.mpr ⟨_, materialize_of_get hget,
      seq_ok.mpr ⟨raiseIf_ok.mpr (differs_false.mpr hprofile), rfl⟩⟩⟩⟩⟩
  have hfingerprints : (launchAttestation.get "fingerprints").eq (.dict (sortItems launchFingerprints.items)) = true :=
    toVal_eq_sortItems launchFingerprints
  unfold admitLaunch
  refine seq_ok.mpr ⟨rfl, bind_ok.mpr ⟨_, loadAttestation_launch, ?_⟩⟩
  show (fieldDiffers _ _ _ >>= _) = _
  refine bind_ok.mpr ⟨false, rfl, ?_⟩
  show (_ >>= _) = _
  refine seq_ok.mpr ⟨rfl, bind_ok.mpr ⟨_, hinputs, ?_⟩⟩
  rw [show exampleLaunch.fingerprints = launchFingerprints from rfl, hfingerprints]
  rfl

/-- The steps of a launch whose process cannot be assigned to the job. -/
def unassignedSteps : LaunchSteps where
  resolveRoot := .ok ["C:\\", "case"]
  assign := .error (.exc (.osError "AssignProcessToJobObject"))
  lastLook := .ok none
  sealDirectory := .ok ⟨exampleDigest, "INCOMPLETE"⟩
  verifySeal := .ok (true, "SEALED")

omit [Runtime] in
theorem forM_ok {α : Type} (xs : List α) : (xs.forM fun _ => (.ok () : Except LaunchExc Unit)) = .ok () := by
  induction xs with
  | nil => rfl
  | cons x xs ih => exact seq_ok.mpr ⟨rfl, ih⟩

theorem creates_example : unassignedSteps.Creates exampleLaunch exampleAdmission (rootFingerprint "R-FC-01-P" [] {}) := by
  have hprepare : unassignedSteps.prepare exampleLaunch exampleAdmission = .ok (.ok (rootFingerprint "R-FC-01-P" [] {})) := by
    refine bind_ok.mpr ⟨["C:\\", "case"], rfl, ?_⟩
    refine seq_ok.mpr ⟨rfl, seq_ok.mpr ⟨rfl, bind_ok.mpr ⟨none, rfl, seq_ok.mpr ⟨rfl, ?_⟩⟩⟩⟩
    exact seq_ok.mpr ⟨forM_ok _, seq_ok.mpr ⟨rfl, bind_ok.mpr ⟨[], rfl, seq_ok.mpr ⟨rfl, seq_ok.mpr ⟨rfl, rfl⟩⟩⟩⟩⟩
  exact ⟨rfl, admitLaunch_example, rfl, rfl, hprepare, rfl, rfl, rfl⟩

end

/-- The process is there, and the launch is blocked. -/
theorem launch_unassigned :
    letI := asciiRuntime
    (launchPinnedRunner unassignedSteps exampleLaunch).2.created = true ∧
      (launchPinnedRunner unassignedSteps exampleLaunch).1 =
        .ok (blockedLaunch "R-FC-01-P" ("runner_launch_failed:" ++ excText (.osError "AssignProcessToJobObject"))) ∧
      ¬ Reported unassignedSteps exampleLaunch := by
  let := asciiRuntime
  have hcreates := creates_example
  have hlaunch := LaunchSteps.launch_of_creates hcreates
  refine ⟨?_, ?_, fun h => ?_⟩
  · rw [hlaunch]
    rfl
  · rw [hlaunch]
    rfl
  · cases (LaunchSteps.Undisturbed.of_reported h hcreates).assigned

end Pmiri
