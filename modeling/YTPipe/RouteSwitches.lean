import YTPipe.Course.Reconciliation

/-!
# Switching routes

A stage whose durable row says that a task of the broker may be running is summarised
on the direct route in just those runs in which such a call comes upon it.
-/

namespace YTPipe

open Broker Proc Ledger

/-- The outcome of the stage's task is not known. -/
def Residue (r : PipelineStage) : Prop :=
  r.reconciliationStatus = some .submissionPrepared
    ∨ r.reconciliationStatus = some .submissionAccepted

instance (r : PipelineStage) : Decidable (Residue r) := inferInstanceAs (Decidable (_ ∨ _))

/-- No call of the direct route found the outcome of a task unknown. -/
def AmbiguityKept (l : List Event) : Prop := ∀ d c, .summarize d c ∈ l → ¬ Residue d

/-- The clock answers, and the stage is due. -/
def Due (r : PipelineStage) : List Reply → Prop
  | .now now :: rest =>
    match r.nextAttemptAt with
    | none => True
    | some t => t ≤ now ∧ ∃ later rest', rest = .now later :: rest'
  | _ => False

/-- An attempt on the direct route of a stage that is live, due and without a
summary, of a video with a transcript. -/
def Summarises (op : StageOp) (w : StageWorld) : Prop :=
  ∃ config replies, op = .attempt config replies ∧ config.summarizationService = some .direct
    ∧ Live w.state.stage.current ∧ w.state.video.current.summary = none
    ∧ w.state.video.current.transcript.isSome = true ∧ Due w.state.stage.current replies

/-- Such an attempt comes upon a task whose outcome is not known. -/
def SwitchesRoute (op : StageOp) (w : StageWorld) : Prop :=
  Summarises op w ∧ Residue w.state.stage.durable

/-- A call of the direct route. -/
def Event.isCall : Event → Bool
  | .summarize _ _ => true
  | _ => false

/-- The calls of the direct route on both traces are the same. -/
def SameCalls (l l' : List Event) : Prop := ∀ d c, .summarize d c ∈ l' ↔ .summarize d c ∈ l

section quiet

variable {platform : Platform} {w : StageWorld} {l l' : List Event}

theorem SameCalls.cons (h : SameCalls l l') {e : Event} (other : e.isCall = false) :
    SameCalls l (e :: l') := by
  intro d c
  rw [List.mem_cons, ← h d c]
  constructor
  · refine fun he => he.resolve_left fun same => ?_
    rw [← same] at other
    cases other
  · exact .inr

/-- An attempt that does not go to the direct route calls nobody on it. -/
theorem sameCalls_course (l : List Event) : BrokerCourse platform (fun _ => False)
    (fun _ => SameCalls l) (fun _ => SameCalls l) (fun _ => SameCalls l) (fun _ => SameCalls l)
    fun _ => SameCalls l := by
  have underway : Underway (fun _ => False) (fun _ => SameCalls l) fun _ => SameCalls l :=
    ⟨fun _ _ _ h => h, sturdy_free fun _ _ _ h => h⟩
  exact {
    earlier := fun _ _ h => h
    resting := underway
    beginning := underway
    posting := underway
    past_ever := fun _ _ h => h
    past_sturdy := underway.sturdy
    raised := fun _ _ _ h => h.cons rfl
    start := fun _ _ _ _ h => h
    prepare := fun _ _ _ h => h
    accept := fun _ _ _ _ h => h
    correlate_begun := fun _ _ _ _ h => h
    correlate_posted := fun _ _ _ _ h => h
    post := fun _ _ _ _ h => h.cons rfl
    sleep := fun _ _ _ h => h.cons rfl
    get := fun _ _ _ _ _ _ _ h => h.cons rfl
    settle_begun := fun _ _ _ _ _ _ _ h _ => h
    settle_posted := fun _ _ _ _ _ _ _ h _ => h
    finish := fun _ _ h => h
    finishPlan := fun _ _ _ _ h _ => h
    piece := fun _ _ _ _ _ h _ _ _ => h
    refuse := fun _ _ _ _ _ h => h
    stop := fun _ _ _ h => h
    build := fun _ _ _ _ _ h _ _ => h
    present := fun _ _ _ h => h
    fail := fun _ _ _ _ _ _ h => h }

theorem sameCalls_reconciliation (l : List Event) : ReconcileCourse platform (fun _ => False)
    (fun _ => SameCalls l) (fun _ => SameCalls l) fun _ => SameCalls l where
  earlier _ _ h := h
  distrust _ _ _ h := h.elim
  past_ever _ _ h := h
  past_sturdy := sturdy_free fun _ _ _ h => h
  stays _ _ h := h
  get _ _ _ _ _ _ h := h.cons rfl
  invalid _ _ h := h
  still _ _ _ _ h := h
  fails _ _ _ h := h
  postpone _ _ _ h := h
  part _ _ _ _ _ _ h _ _ _ := h
  final _ _ _ _ h _ := h

theorem sameCalls_refl (l : List Event) : SameCalls l l := fun _ _ => Iff.rfl

/-- `utcNow`, whether or not the clock answers. -/
theorem wp_utcNow_cases {post : Time → StageWorld → Prop} {lost : StageWorld → Prop}
    (stop : (∀ t rest, w.replies ≠ .now t :: rest) → lost w)
    (go : ∀ t rest, w.replies = .now t :: rest → post t { w with replies := rest }) :
    wp utcNow post lost w := by
  cases hr : w.replies with
  | nil =>
    apply wp_utcNow_reply (stop fun t rest => by rw [hr]; nofun)
    intro t rest same
    exact absurd (hr.symm.trans same) nofun
  | cons r rest =>
    cases r with
    | now t => exact (wp_utcNow_cons hr).mpr (go t rest hr)
    | _ =>
      apply wp_utcNow_reply (stop fun t rest => by rw [hr]; nofun)
      intro t rest same
      exact absurd (hr.symm.trans same) nofun

/-- What an attempt on the direct route leaves on the trace. -/
def CallsOnce (w v : StageWorld) (calls : Prop) : Prop :=
  calls ∧ (∃ c, v.trace = .summarize w.state.stage.durable c :: w.trace)
    ∨ ¬ calls ∧ v.trace = w.trace

/-- Once the call is made, nothing more is. -/
theorem attemptDirectSummary_calls {calls : Prop} {v : StageWorld} {attemptedAt : Time}
    (made : calls) (state : v.state = w.state) (trace : v.trace = w.trace) :
    wp (attemptDirectSummary platform attemptedAt) (fun _ u => CallsOnce w u calls)
      (fun u => CallsOnce w u calls) v := by
  have called {u : StageWorld} (c : PipelineStage)
      (h : u.trace = .summarize v.state.stage.durable c :: v.trace) : CallsOnce w u calls :=
    .inl ⟨made, c, by rw [h, state, trace]⟩
  simp only [attemptDirectSummary]
  rw [wp_bind, wp_setStage, wp_bind, wp_emit, wp_bind]
  apply wp_ask
  · exact called _ rfl
  intro outcome answers
  split
  · rw [wp_bind, wp_stageRow, wp_bind, wp_setStage, wp_setRecoveryTarget]
    exact called _ rfl
  · split
    · rw [wp_bind, wp_setVideo, wp_bind, wp_setStage, wp_bind, wp_setRecoveryTarget]
      apply wp_syncFlush
      · exact called _ rfl
      · intro rest s _
        exact called _ rfl
    · rw [wp_setStage]
      exact called _ rfl

/-- The conditions of a call, of the world an attempt starts in. -/
def Passes (w : StageWorld) : Prop :=
  Live w.state.stage.current ∧ w.state.video.current.summary = none
    ∧ w.state.video.current.transcript.isSome = true ∧ Due w.state.stage.current w.replies

/-- The due time, as far as an attempt is let through: it then goes on to read the
clock once more. -/
theorem wp_notYetDue_due {r : PipelineStage} {post : Bool → StageWorld → Prop}
    {lost : StageWorld → Prop} (silent : ¬ Due r w.replies → lost w)
    (late : ¬ Due r w.replies → ∀ rest, post true { w with replies := rest })
    (go : ∀ rest, (Due r w.replies ↔ ∃ t rest', rest = .now t :: rest') →
      post false { w with replies := rest }) : wp (notYetDue r) post lost w := by
  unfold notYetDue
  split
  · next always =>
    rw [wp_pure]
    refine go w.replies ?_
    constructor
    · intro due
      unfold Due at due
      split at due
      · exact ⟨_, _, ‹_›⟩
      · exact due.elim
    · rintro ⟨t, rest, hr⟩
      simp only [Due, hr, always]
  · next t next =>
    rw [wp_bind]
    apply wp_utcNow_cases
    · refine fun quiet => silent fun due => ?_
      unfold Due at due
      split at due
      · exact quiet _ _ ‹_›
      · exact due
    · intro now rest hr
      have due : Due r w.replies ↔ t ≤ now ∧ ∃ later rest', rest = .now later :: rest' := by
        simp only [Due, hr, next]
      rw [wp_pure]
      by_cases early : t > now
      · rw [decide_eq_true early]
        exact late (fun h => Int.not_le.mpr early (due.mp h).1) rest
      · rw [decide_eq_false early]
        exact go rest (due.trans (and_iff_right (Int.not_lt.mp early)))

/-- An attempt on the direct route calls just where it passes its conditions. -/
theorem directAttempt_calls {config : PipelineConfig}
    (route : config.summarizationService = some .direct) :
    wp (attemptSummaryStage platform config) (fun _ v => CallsOnce w v (Passes w))
      (fun v => CallsOnce w v (Passes w)) w := by
  unfold attemptSummaryStage
  rw [wp_bind, wp_stageRow]
  split
  · next shut =>
    refine .inr ⟨fun passes => ?_, rfl⟩
    rcases shut with closed | held
    · exact closed passes.1.2
    · rw [passes.1.1] at held
      cases held
  next shut =>
  have live : Live w.state.stage.current := by
    obtain ⟨opened, held⟩ := not_or.mp shut
    exact ⟨Option.not_isSome_iff_eq_none.mp held, Decidable.not_not.mp opened⟩
  rw [wp_bind]
  apply wp_notYetDue_due
  · exact fun undue => .inr ⟨fun passes => undue passes.2.2.2, rfl⟩
  · exact fun undue rest => .inr ⟨fun passes => undue passes.2.2.2, rfl⟩
  intro rest due
  rw [if_neg nofun, wp_bind, wp_videoRow]
  split
  · next done =>
    refine .inr ⟨fun passes => ?_, rfl⟩
    rw [passes.2.1] at done
    cases done
  next undone =>
  rw [route]
  simp only
  split
  · next missing =>
    refine .inr ⟨fun passes => ?_, rfl⟩
    have present := passes.2.2.1
    rw [Option.isNone_iff_eq_none.mp missing] at present
    cases present
  next present =>
  have summary : w.state.video.current.summary = none := Option.not_isSome_iff_eq_none.mp undone
  have transcript : w.state.video.current.transcript.isSome = true := by
    rw [Option.isSome_iff_ne_none]
    exact fun none => present (Option.isNone_iff_eq_none.mpr none)
  rw [wp_bind]
  apply wp_utcNow_cases
  · intro silent
    refine .inr ⟨fun passes => ?_, rfl⟩
    obtain ⟨t, rest', hr⟩ := due.mp passes.2.2.2
    exact silent t rest' hr
  · intro t rest' hr
    have passes : Passes w := ⟨live, summary, transcript, due.mpr ⟨t, rest', hr⟩⟩
    rw [wp_bind]
    exact wp_mono (attemptDirectSummary_calls passes (v := { w with replies := rest' }) rfl rfl)
      (fun _ _ h => h) fun _ h => h

theorem recover_trace {before : Nat} (r : Option Unit × StageWorld) :
    (recover before r).trace = r.2.trace := by
  unfold recover
  split
  · rfl
  · split <;> rfl
  · rfl

/-- What an operation leaves on the trace, wherever it comes back or is lost. -/
theorem perform_trace {op : StageOp} {v : StageWorld} {P : List Event → Prop}
    (h : wp (op.proc platform) (fun _ u => P u.trace) (fun u => P u.trace)
      { v with replies := op.replies }) : P (perform platform op v).trace := by
  unfold perform
  rw [recover_trace]
  revert h
  unfold wp Proc.run
  cases op.proc platform { v with replies := op.replies } with
  | mk r u => cases r <;> exact id

/-- Only an attempt on the direct route calls. -/
theorem perform_sameCalls {op : StageOp} {v : StageWorld}
    (other : ∀ config replies, op = .attempt config replies →
      config.summarizationService ≠ some .direct) :
    SameCalls v.trace (perform platform op v).trace := by
  have same := sameCalls_refl v.trace
  have start : Reached (Sometime fun _ => SameCalls v.trace) v.state v.state := by
    unfold Reached
    split
    · exact ⟨rfl, rfl⟩
    · exact ⟨⟨_, same⟩, rfl⟩
    · exact ⟨⟨_, same⟩, _, same⟩
  apply perform_trace
  cases op with
  | attempt config replies =>
    unfold StageOp.proc
    rw [wp_bind]
    refine wp_mono ((sameCalls_course v.trace).wp_attemptSummaryStage ?_ ?_ ?_ ?_ ?_ ?_)
      (fun _ u out => ?_) fun _ h => h
    · exact fun _ _ route => absurd route (other config replies rfl)
    · exact fun _ => same
    · exact False.elim
    · exact start
    · exact fun u _ trace => trace ▸ same
    · exact fun u _ adrift => adrift.row
    · rcases out with ⟨_, trace⟩ | ⟨_, ended⟩
      · exact trace ▸ same
      · exact ended.row
  | reconcile service replies =>
    apply (sameCalls_reconciliation v.trace).wp_reconcileStage
    · exact fun _ _ _ _ => same
    · exact same
    · exact False.elim
    · exact start
    · exact fun u _ kept => kept
    · exact fun u ended => ended.row
  | request audit replies =>
    apply wp_requestReconciliation fun _ l (kept : SameCalls v.trace l) => kept
    · exact sturdy_free fun _ _ _ kept => kept
    · exact fun _ _ _ kept _ _ => kept
    · exact same
    · exact False.elim
    · exact start
    · exact fun u adrift => adrift.row
    · exact fun u ended => ended.row
  | skip => exact same
  | commit replies =>
    apply wp_commit
    · exact same
    · exact fun _ => same
  | rollback => exact same
  | reload =>
    unfold StageOp.proc
    rw [wp_bind, wp_read, wp_when]
    split <;> exact same
  | video u => exact same

/-- An operation keeps the ambiguity just where it does not switch routes. -/
theorem perform_ambiguity {op : StageOp} {v : StageWorld} :
    AmbiguityKept (perform platform op v).trace
      ↔ AmbiguityKept v.trace ∧ ¬ SwitchesRoute op v := by
  have unchanged (same : SameCalls v.trace (perform platform op v).trace)
      (stays : ¬ SwitchesRoute op v) : AmbiguityKept (perform platform op v).trace
        ↔ AmbiguityKept v.trace ∧ ¬ SwitchesRoute op v := by
    rw [and_iff_left stays]
    constructor
    · exact fun kept d c he => kept d c ((same d c).mpr he)
    · exact fun kept d c he => kept d c ((same d c).mp he)
  by_cases direct : ∃ config replies, op = .attempt config replies
      ∧ config.summarizationService = some .direct
  · obtain ⟨config, replies, rfl, route⟩ := direct
    have summarises : Summarises (.attempt config replies) v ↔ Passes { v with replies := replies } := by
      constructor
      · rintro ⟨config', replies', same, _, passes⟩
        cases same
        exact passes
      · exact fun passes => ⟨config, replies, rfl, route, passes⟩
    have calls : CallsOnce v (perform platform (.attempt config replies) v)
        (Passes { v with replies := replies }) := by
      apply perform_trace (P := fun l => CallsOnce v { v with trace := l } _)
      unfold StageOp.proc
      rw [wp_bind]
      exact wp_mono (directAttempt_calls route) (fun _ _ h => h) fun _ h => h
    rcases calls with ⟨passes, c, trace⟩ | ⟨stopped, trace⟩
    · rw [trace]
      constructor
      · intro kept
        refine ⟨fun d c he => kept d c (List.mem_cons_of_mem _ he), fun switches => ?_⟩
        exact kept _ _ (List.mem_cons_self ..) switches.2
      · rintro ⟨kept, stays⟩ d c he
        rcases List.mem_cons.mp he with he | he
        · cases he
          exact fun residue => stays ⟨summarises.mpr passes, residue⟩
        · exact kept d c he
    · apply unchanged
      · rw [trace]
        exact sameCalls_refl _
      · exact fun switches => stopped (summarises.mp switches.1)
  · apply unchanged
    · apply perform_sameCalls
      exact fun config replies same route => direct ⟨config, replies, same, route⟩
    · rintro ⟨⟨config, replies, same, route, _⟩, _⟩
      exact direct ⟨config, replies, same, route⟩

theorem run_ambiguity {ops : List StageOp} {v : StageWorld} :
    AmbiguityKept (runStage platform ops v).trace
      ↔ AmbiguityKept v.trace ∧ Avoids platform SwitchesRoute ops v := by
  induction ops generalizing v with
  | nil => exact (and_iff_left trivial).symm
  | cons op ops ih =>
    change AmbiguityKept (runStage platform ops (perform platform op v)).trace ↔ _
    rw [ih, perform_ambiguity, and_assoc]
    exact Iff.rfl

end quiet

/-- The direct route leaves a stage whose task's outcome is unknown alone in just
the runs in which no attempt on it comes upon such a stage. -/
theorem routes_preserve_ambiguity_iff (platform : Platform) (stage : PipelineStage) (video : Video)
    (ops : List StageOp) :
    AmbiguityKept (runStage platform ops (openSession stage video)).trace
      ↔ Avoids platform SwitchesRoute ops (openSession stage video) := by
  rw [run_ambiguity]
  exact and_iff_right fun _ _ he => absurd he List.not_mem_nil

/-- An attempt on the broker's route is lost before its POST is answered; the next
one is made on the direct route. -/
def Sample.switchedOps : List StageOp :=
  [.attempt (Sample.config 4096) [.now 0, .committed, .clock 0, .clock 0],
    .attempt { Sample.config 4096 with summarizationService := some .direct } [.now 0]]

/-- A call of the direct route that found the outcome of a task unknown. -/
def Event.isSwitch : Event → Bool
  | .summarize d _ => decide (Residue d)
  | _ => false

theorem ambiguity_lost : ¬ AmbiguityKept (runStage (Sample.platform .assigned) Sample.switchedOps
    (openSession Sample.stage Sample.video)).trace := by
  intro kept
  have switched : (runStage (Sample.platform .assigned) Sample.switchedOps
      (openSession Sample.stage Sample.video)).trace.any Event.isSwitch = true := by decide +kernel
  obtain ⟨e, he, residue⟩ := List.any_eq_true.mp switched
  cases e with
  | summarize d c => exact kept d c he (of_decide_eq_true residue)
  | _ => cases residue

end YTPipe
