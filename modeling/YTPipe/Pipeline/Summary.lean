import YTPipe.Pipeline.Turns
import YTPipe.Course.Reconciliation

/-!
# What the video's session takes up of its summary
-/

namespace YTPipe.Pipeline

open Broker Proc

/-- The session the work on a summary starts in. -/
def summarySession (stage : StageInstance) (s : PipelineSession) : StageSession :=
  ⟨stage, s.video, s.recoveryTarget, .untouched⟩

theorem mem_commits {reach : Reach} {e : PipelineEvent} (h : e ∈ commits reach) :
    e = .committed := by
  cases reach with
  | untouched => exact absurd h List.not_mem_nil
  | flushed => exact absurd h List.not_mem_nil
  | committed => exact List.mem_singleton.mp h

variable {platform : Platform} {w : PipelineWorld} {ever : PipelineStage → Prop}

theorem wp_onSummary_reply {p : StageProc Unit} {post : Unit → PipelineWorld → Prop}
    {lost : PipelineWorld → Prop} (stop : lost w) (absent : post () w)
    (go : ∀ stage answers rest, (w.state.slot .summary).row = some stage →
      w.replies = .stage answers :: rest →
      wp p (fun _ v => post () (takeUp platform v { w with replies := rest }))
        (fun v => lost (takeUp platform v { w with replies := rest }))
        ⟨summarySession stage w.state, answers, []⟩) :
    wp (onSummary platform p) post lost w := by
  unfold onSummary
  rw [wp_bind, wp_read]
  split
  · exact absent
  · next stage row =>
    apply wp_nest_reply stop
    intro answers r rest hr hv
    cases r with
    | stage replies =>
      obtain rfl : replies = answers := Option.some.inj hv
      exact go stage replies rest row hr
    | _ => cases hv

theorem wp_onSummary {p : StageProc Unit} {post : Unit → PipelineWorld → Prop}
    {lost : PipelineWorld → Prop} (stop : lost w) (absent : post () w)
    (go : ∀ stage answers rest, (w.state.slot .summary).row = some stage →
      wp p (fun _ v => post () (takeUp platform v { w with replies := rest }))
        (fun v => lost (takeUp platform v { w with replies := rest }))
        ⟨summarySession stage w.state, answers, []⟩) :
    wp (onSummary platform p) post lost w :=
  wp_onSummary_reply stop absent fun stage answers rest row _ => go stage answers rest row

namespace PipelineSession

variable {s : PipelineSession} {stage : StageInstance} {inner : StageSession}

/-- What is durable stays, or is the summary's with a commit of the other rows. -/
theorem durableRows_absorb (row : (s.slot .summary).row = some stage)
    (reached : Reached ever (summarySession stage s) inner) :
    (s.absorb platform inner).durableRows = s.durableRows
      ∨ inner.reach = .committed ∧ ∃ d, ever d ∧ ∀ n, (s.absorb platform inner).durableRows n
        = if n = .summary then some d else (s.commit platform).rows n := by
  have own : (s.absorb platform inner).durableRows .summary
      = if ((s.reached platform inner.reach).slot .summary).stored
        then some inner.stage.durable else none := rfl
  unfold Reached at reached
  cases reach : inner.reach with
  | untouched =>
    rw [reach] at reached own
    left
    funext n
    by_cases summary : n = .summary
    · subst summary
      rw [own, reached.2]
      simp only [PipelineSession.reached, durableRows, Slot.durable, row, Option.map_some]
      rfl
    · rw [durableRows_absorb_of_ne _ _ _ summary, reach]
      rfl
  | flushed =>
    rw [reach] at reached own
    left
    funext n
    by_cases summary : n = .summary
    · subst summary
      rw [own, reached.2]
      simp only [PipelineSession.reached, flush, Slot.flush, durableRows, Slot.durable, row,
        Option.map_some]
      rfl
    · rw [durableRows_absorb_of_ne _ _ _ summary, reach]
      exact congrFun (durableRows_flush s) n
  | committed =>
    rw [reach] at reached own
    refine .inr ⟨rfl, inner.stage.durable, reached.2, fun n => ?_⟩
    by_cases summary : n = .summary
    · subst summary
      rw [own, if_pos rfl]
      simp only [PipelineSession.reached, commit, Slot.commit, row, Option.isSome_some, if_true]
    · rw [if_neg summary, durableRows_absorb_of_ne _ _ _ summary, reach]
      exact congrFun (durableRows_commit_eq s) n

/-- The other rows stay, or are committed. -/
theorem rows_absorb (inner : StageSession) (n : StageName) (h : n ≠ .summary) :
    (s.absorb platform inner).rows n = s.rows n
      ∨ (s.absorb platform inner).rows n = (s.commit platform).rows n := by
  rw [rows_absorb_of_ne _ _ _ h]
  cases inner.reach with
  | untouched => exact .inl rfl
  | flushed => exact .inl (congrFun (rows_flush s) n)
  | committed => exact .inr rfl

end PipelineSession

/-- The reconciliation comes to an end with the summary's task. -/
def settlesSummary (platform : Platform) (service : PipelineService)
    (replies : List PipelineReply) (s : PipelineSession) : Bool :=
  match service.summaries.summarizationService, replies with
  | some (.broker broker), .others reach false :: .stage (.now now :: answers) :: _ =>
    ((s.reached platform reach).slot .summary).row.any fun stage =>
      decide (reconcilable now stage.flushed) && settles platform broker
        ((s.reached platform reach).video.current.transcript.getD []) stage.current answers
  | _, _ => false

theorem settlesSummary_iff {service : PipelineService} {replies : List PipelineReply}
    {s : PipelineSession} : settlesSummary platform service replies s = true
      ↔ ∃ broker reach now answers rest stage,
        service.summaries.summarizationService = some (.broker broker)
          ∧ replies = .others reach false :: .stage (.now now :: answers) :: rest
          ∧ ((s.reached platform reach).slot .summary).row = some stage
          ∧ reconcilable now stage.flushed
          ∧ settles platform broker ((s.reached platform reach).video.current.transcript.getD [])
            stage.current answers = true := by
  constructor
  · intro settled
    unfold settlesSummary at settled
    split at settled
    · next broker reach now answers rest wired =>
      obtain ⟨stage, row, due⟩ := (Option.any_eq_true _ _).mp settled
      obtain ⟨listed, settled⟩ := Bool.and_eq_true_iff.mp due
      exact ⟨broker, reach, now, answers, rest, stage, wired, rfl, row, of_decide_eq_true listed,
        settled⟩
    · cases settled
  · rintro ⟨broker, reach, now, answers, rest, stage, wired, rfl, row, listed, settled⟩
    simp only [settlesSummary, wired]
    exact (Option.any_eq_true _ _).mpr ⟨stage, row, by simp [listed, settled]⟩

end YTPipe.Pipeline
