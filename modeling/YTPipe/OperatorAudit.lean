import Mathlib.Algebra.GroupWithZero.Nat
import Mathlib.Data.List.Sort
import YTPipe.JsonCut
import YTPipe.Refinement.Run
import YTPipe.Strings

/-!
# The audit record of an operator's resolution

`request_quarantine_reconciliation` of `services/polling.py` and the route
`reconcile_quarantined_summary`. The record is written as JSON and cut to the
length the service gives the column, so that a reference whose characters are
written as long escapes leaves a text that is no JSON.
-/

namespace YTPipe

open Json Text Proc

namespace Json

/-- How long a character is in a string that is written as ASCII. -/
def escapeWidth (c : Char) : Nat :=
  if c = '"' ∨ c = '\\' ∨ c = '\n' ∨ c = '\r' ∨ c = '\t' ∨ c.toNat = 8 ∨ c.toNat = 12 then 2
  else if 32 ≤ c.toNat ∧ c.toNat ≤ 126 then 1
  else if c.toNat < 0x10000 then 6
  else 12

def escapedLength (t : Text) : Nat := (t.map escapeWidth).sum

theorem length_escapeChar (c : Char) : (escapeChar c).length = escapeWidth c := by
  unfold escapeChar escapeWidth
  repeat' split
  all_goals first
    | rfl
    | simp_all

theorem length_quote (s : String) : (quote s).length = escapedLength s.toList + 2 := by
  have widths : escapeWidth = List.length ∘ escapeChar :=
    funext fun c => (length_escapeChar c).symm
  simp only [quote, escapedLength, List.cons_append, List.length_cons, List.length_append,
    List.length_flatMap, List.length_nil, widths, Function.comp_def]

end Json

/-! Moments as text. -/

/-- The year, the month and the day, of a day counted from 1970-01-01. -/
def civil (day : Int) : Int × Int × Int :=
  -- Years that start in March, in cycles of 400.
  let shifted := day + 719468
  let cycle := shifted / 146097
  let ofCycle := shifted % 146097
  let year := (ofCycle - ofCycle / 1460 + ofCycle / 36524 - ofCycle / 146096) / 365
  let ofYear := ofCycle - (365 * year + year / 4 - year / 100)
  let march := (5 * ofYear + 2) / 153
  let month := if march < 10 then march + 3 else march - 9
  (400 * cycle + year + (if month ≤ 2 then 1 else 0), month, ofYear - (153 * march + 2) / 5 + 1)

def padded (width : Nat) (n : Int) : Text := (toString n).toList.leftpad width '0'

/-- `isoformat()`, of a moment in UTC. -/
def isoformat (t : Time) : Text :=
  let (year, month, day) := civil (t / 86400000000)
  let rest := t % 86400000000
  padded 4 year ++ '-' :: padded 2 month ++ '-' :: padded 2 day
    ++ 'T' :: padded 2 (rest / 3600000000) ++ ':' :: padded 2 (rest / 60000000 % 60)
    ++ ':' :: padded 2 (rest / 1000000 % 60)
    ++ (if rest % 1000000 = 0 then [] else '.' :: padded 6 (rest % 1000000)) ++ "+00:00".toList

example : String.ofList (isoformat 1709210096000789) = "2024-02-29T12:34:56.000789+00:00" := by
  decide +kernel

/-! The record. -/

/-- `" ".join(resolution_reference.split())[:128]`. -/
def normalizedReference (resolutionReference : String) : Text :=
  (join [' '] (words resolutionReference.toList)).take 128

def auditRecord (actorSource : String) (resolvedAt : Time) (resolutionReference : String)
    (stageId : Int) : Dict :=
  [("actor_source", str (truncate 64 actorSource)),
    ("resolved_at", str (String.ofList (isoformat resolvedAt))),
    ("reference", str (String.ofList (normalizedReference resolutionReference))),
    ("stage_id", int stageId),
    ("outcome", str "get_eligible")]

/-- `sort_keys=True`, of a dictionary that holds none itself. -/
def sortKeys (d : Dict) : Dict := d.insertionSort fun m n => m.1 ≤ n.1

section

variable (F : FloatText)

/-- `json.dumps(audit, sort_keys=True, ensure_ascii=True)[:1024]`. -/
def auditText (record : Dict) : String :=
  truncate 1024 (String.ofList (dumps F (obj (sortKeys record))))

variable (platform : Platform)

/-- Whether the query of the service and of its route finds the row. -/
def isSummaryOf (userId stageId : Int) (r : PipelineStage) : Prop :=
  r.id = stageId ∧ r.userId = userId ∧ r.stage = .summary

instance (userId stageId : Int) (r : PipelineStage) : Decidable (isSummaryOf userId stageId r) :=
  inferInstanceAs (Decidable (_ ∧ _))

/-- `request_quarantine_reconciliation`. -/
def requestQuarantineReconciliation (pipelineService : Bool) (userId stageId : Int)
    (resolutionReference actorSource : String) : StageProc Bool := do
  if pipelineService = false ∨ strip resolutionReference.toList = [] then return false
  else
    let stage ← stageRow
    if ¬ isSummaryOf userId stageId stage then return false
    else if ← makeQuarantineGetEligible then
      let now ← utcNow
      let audit := auditRecord actorSource now resolutionReference stageId
      setStage fun r => { r with reconciliationReason := some (auditText F audit) }
      flush platform
      return true
    else return false

structure HttpException where
  statusCode : Nat
  detail : String
  deriving DecidableEq, Repr

/-- The references the route does not refuse. -/
def AcceptedReference (resolutionReference : String) : Prop :=
  strip resolutionReference.toList ≠ [] ∧ resolutionReference.length ≤ 256

instance (resolutionReference : String) : Decidable (AcceptedReference resolutionReference) :=
  inferInstanceAs (Decidable (_ ∧ _))

/-- `reconcile_quarantined_summary`. -/
def reconcileQuarantinedSummary (user : Option Int) (stageId : Int)
    (resolutionReference : String) : StageProc (Except HttpException Unit) := do
  match user with
  | none => return .error ⟨409, "No user is configured."⟩
  | some userId =>
    if ¬ AcceptedReference resolutionReference then
      return .error ⟨422, "A resolution reference is required."⟩
    else
      let stage ← stageRow
      if ¬ isSummaryOf userId stageId stage then
        return .error ⟨404, "Summary stage not found."⟩
      else
        let eligible ← requestQuarantineReconciliation F platform true userId stageId
          resolutionReference "admin_bearer"
        commit platform
        if eligible then return .ok ()
        else return .error ⟨409,
          "Stage is not an eligible known-task quarantine awaiting operator resolution."⟩

end

/-! What becomes of it. -/

section

variable {F : FloatText} {platform : Platform} {pipelineService : Bool} {userId stageId : Int}
  {resolutionReference actorSource : String} {now : Time}

/-- How long the text of the record is before it is cut. -/
def auditLength (actorSource : String) (resolvedAt : Time) (resolutionReference : String)
    (stageId : Int) : Nat :=
  97 + escapedLength (actorSource.toList.take 64)
    + escapedLength (normalizedReference resolutionReference)
    + (isoformat resolvedAt).length + (toString stageId).length

/-- The text is written as it is. -/
def Unescaped (t : Text) : Prop := ∀ c ∈ t, escapeWidth c = 1

instance (t : Text) : Decidable (Unescaped t) := List.decidableBAll _ t

theorem Unescaped.length {t : Text} (h : Unescaped t) : escapedLength t = t.length := by
  induction t with
  | nil => rfl
  | cons c t ih =>
    have first := h c List.mem_cons_self
    have rest : escapedLength t = t.length := ih fun d hd => h d (List.mem_cons_of_mem _ hd)
    simp only [escapedLength, List.map_cons, List.sum_cons, List.length_cons] at rest ⊢
    omega

theorem Unescaped.append {s t : Text} (h : Unescaped s) (h' : Unescaped t) : Unescaped (s ++ t) :=
  fun c hc => (List.mem_append.mp hc).elim (h c) (h' c)

theorem Unescaped.cons {c : Char} {t : Text} (one : escapeWidth c = 1) (h : Unescaped t) :
    Unescaped (c :: t) := List.forall_mem_cons.mpr ⟨one, h⟩

theorem unescaped_digits {t : Text} (h : IsDigits t) : Unescaped t := by
  intro c hc
  obtain ⟨low, high⟩ := Char.isDigit_iff_toNat.mp (h c hc)
  have low : 48 ≤ c.toNat := low
  have high : c.toNat ≤ 57 := high
  unfold escapeWidth
  rw [if_neg, if_pos ⟨by omega, by omega⟩]
  rintro (rfl | rfl | rfl | rfl | rfl | eight | twelve)
  · exact absurd low (by decide)
  · exact absurd high (by decide)
  · exact absurd low (by decide)
  · exact absurd low (by decide)
  · exact absurd low (by decide)
  · omega
  · omega

theorem unescaped_whole {t : Text} (h : IsWhole t) : Unescaped t := by
  rcases h with rfl | ⟨c, digits, rfl, _, digit, all⟩
  · exact fun c hc => List.mem_singleton.mp hc ▸ rfl
  · exact unescaped_digits (List.forall_mem_cons.mpr ⟨digit, all⟩)

theorem unescaped_padded (width : Nat) (n : Int) : Unescaped (padded width n) := by
  apply Unescaped.append
  · intro c hc
    rw [List.eq_of_mem_replicate hc]
    rfl
  · rcases int_integer n with whole | ⟨digits, minus, whole⟩
    · exact unescaped_whole whole
    · rw [minus]
      exact (unescaped_whole whole).cons rfl

theorem unescaped_isoformat (t : Time) : Unescaped (isoformat t) := by
  have fraction : Unescaped (if t % 86400000000 % 1000000 = 0 then []
      else '.' :: padded 6 (t % 86400000000 % 1000000)) := by
    split
    · exact fun c hc => absurd hc List.not_mem_nil
    · exact (unescaped_padded _ _).cons rfl
  have zone : Unescaped "+00:00".toList := by decide +kernel
  have part {width : Nat} {n : Int} := unescaped_padded width n
  exact ((((((part.append (part.cons rfl)).append (part.cons rfl)).append (part.cons rfl)).append
    (part.cons rfl)).append (part.cons rfl)).append fraction).append zone

theorem sortKeys_auditRecord : sortKeys (auditRecord actorSource now resolutionReference stageId) =
    [("actor_source", str (truncate 64 actorSource)),
      ("outcome", str "get_eligible"),
      ("reference", str (String.ofList (normalizedReference resolutionReference))),
      ("resolved_at", str (String.ofList (isoformat now))),
      ("stage_id", int stageId)] := by
  simp only [sortKeys, auditRecord, List.insertionSort, List.foldr, List.orderedInsert]
  simp

theorem length_dumps_auditRecord :
    (dumps F (obj (sortKeys (auditRecord actorSource now resolutionReference stageId)))).length
      = auditLength actorSource now resolutionReference stageId := by
  rw [sortKeys_auditRecord]
  simp only [dumps, dumpsMembers, dumpsMember, List.length_cons, List.length_append, length_quote,
    List.length_nil, truncate, String.toList_ofList, auditLength]
  have names : escapedLength "actor_source".toList = 12 ∧ escapedLength "outcome".toList = 7
      ∧ escapedLength "get_eligible".toList = 12 ∧ escapedLength "reference".toList = 9
      ∧ escapedLength "resolved_at".toList = 11 ∧ escapedLength "stage_id".toList = 8 := by
    decide +kernel
  rw [String.length_toList, (unescaped_isoformat now).length]
  omega

theorem plain_auditRecord {member : String × Json}
    (there : member ∈ sortKeys (auditRecord actorSource now resolutionReference stageId)) :
    Plain member.2 := by
  rw [sortKeys_auditRecord] at there
  simp only [List.mem_cons, List.not_mem_nil, or_false] at there
  rcases there with rfl | rfl | rfl | rfl | rfl <;> trivial

/-- The text decodes to the record, in any order. -/
def Decodes (F : FloatText) (text : String) (record : Dict) : Prop :=
  ∃ decoded, loads F text.toList = some (obj decoded) ∧ decoded.Perm record

theorem splitSpace_visible {t : Text} (visible : ∀ c ∈ t, isSpace c = false) :
    splitSpace t = [t] := by
  induction t with
  | nil => rfl
  | cons c t ih =>
    obtain ⟨first, rest⟩ := List.forall_mem_cons.mp visible
    rw [splitSpace, ih rest, first]
    rfl

/-- A reference without white space is kept up to the bound. -/
theorem normalizedReference_visible {t : Text} (visible : ∀ c ∈ t, isSpace c = false)
    (some : t ≠ []) : normalizedReference (String.ofList t) = t.take 128 := by
  have single : words t = [t] := by
    rw [words, splitSpace_visible visible]
    cases t with
    | nil => exact absurd rfl some
    | cons c t => rfl
  rw [normalizedReference, String.toList_ofList, single, join, List.intercalate_singleton]

theorem visible_replicate {n : Nat} {c : Char} (visible : isSpace c = false) :
    ∀ d ∈ List.replicate n c, isSpace d = false :=
  fun _ hd => List.eq_of_mem_replicate hd ▸ visible

theorem accepted_replicate {n : Nat} {c : Char} (visible : isSpace c = false) (some : 0 < n)
    (short : n ≤ 256) : AcceptedReference (String.ofList (List.replicate n c)) := by
  refine ⟨?_, ?_⟩
  · rw [String.toList_ofList, strip_of_trim (trim_of_visible (visible_replicate visible))]
    apply List.ne_nil_of_length_pos
    rwa [List.length_replicate]
  · rwa [String.length_ofList, List.length_replicate]

theorem escapedLength_replicate (n : Nat) (c : Char) :
    escapedLength (List.replicate n c) = n * escapeWidth c := by
  induction n with
  | zero => rw [Nat.zero_mul]; rfl
  | succ n ih =>
    have front : escapedLength (List.replicate (n + 1) c)
        = escapeWidth c + escapedLength (List.replicate n c) := rfl
    rw [front, ih, Nat.succ_mul, Nat.add_comm]

/-- A character that is written as a long escape fills the column. -/
theorem over_replicate {n : Nat} {c : Char} (visible : isSpace c = false) (short : n ≤ 128)
    (long : 927 < n * escapeWidth c) :
    1024 < auditLength actorSource now (String.ofList (List.replicate n c)) stageId := by
  have some : List.replicate n c ≠ [] := by
    rintro none
    rw [(List.replicate_eq_nil_iff c).mp none, Nat.zero_mul] at long
    omega
  have kept : (List.replicate n c).take 128 = List.replicate n c :=
    List.take_of_length_le (by rwa [List.length_replicate])
  rw [auditLength, normalizedReference_visible (visible_replicate visible) some, kept,
    escapedLength_replicate]
  omega

theorem toList_auditText (record : Dict) :
    (auditText F record).toList = (dumps F (obj (sortKeys record))).take 1024 := by
  simp only [auditText, truncate, String.toList_ofList]

/-- A record that is cut is no JSON. -/
theorem loads_auditText_cut
    (long : 1024 < auditLength actorSource now resolutionReference stageId) :
    loads F (auditText F (auditRecord actorSource now resolutionReference stageId)).toList
      = none := by
  have whole := @length_dumps_auditRecord F stageId resolutionReference actorSource now
  have filled : sortKeys (auditRecord actorSource now resolutionReference stageId) ≠ [] := by
    rw [sortKeys_auditRecord]
    exact List.cons_ne_nil _ _
  rw [toList_auditText]
  apply loads_cut filled (fun _ => plain_auditRecord) (List.take_append_drop 1024 _).symm
  apply List.ne_nil_of_length_pos
  rw [List.length_drop]
  omega

/-- A record that is not cut is read back. -/
theorem loads_auditText (fits : auditLength actorSource now resolutionReference stageId ≤ 1024) :
    loads F (auditText F (auditRecord actorSource now resolutionReference stageId)).toList
      = some (obj (sortKeys (auditRecord actorSource now resolutionReference stageId))) := by
  have whole := @length_dumps_auditRecord F stageId resolutionReference actorSource now
  rw [toList_auditText, List.take_of_length_le (by omega)]
  apply loads_dumps
  rw [floats, floatsMembers_plain fun _ => plain_auditRecord]
  exact fun _ none => absurd none List.not_mem_nil

theorem decodes_auditText :
    Decodes F (auditText F (auditRecord actorSource now resolutionReference stageId))
        (auditRecord actorSource now resolutionReference stageId)
      ↔ auditLength actorSource now resolutionReference stageId ≤ 1024 := by
  constructor
  · rintro ⟨decoded, read, _⟩
    refine Nat.le_of_not_lt fun long => ?_
    rw [loads_auditText_cut long] at read
    cases read
  · exact fun fits => ⟨_, loads_auditText fits, List.perm_insertionSort _ _⟩

/-- The request is one the service grants. -/
structure Grantable (pipelineService : Bool) (userId stageId : Int) (resolutionReference : String)
    (r : PipelineStage) : Prop where
  served : pipelineService = true
  asks : strip resolutionReference.toList ≠ []
  found : isSummaryOf userId stageId r
  held : r.quarantinedAt.isNone = false
  known : r.brokerTaskId.getD "" ≠ ""
  awaiting : r.reconciliationStatus = some .awaitingOperatorResolution

/-- The session after a request that was granted. -/
def grantedSession (F : FloatText) (platform : Platform) (record : Dict) (asked : Time)
    (s : StageSession) : StageSession :=
  { s with
    stage := s.stage.modify (Ledger.eligibleRow asked (auditText F record)) }.flush platform

theorem request_true_iff {w w' : StageWorld} :
    (requestQuarantineReconciliation F platform pipelineService userId stageId resolutionReference
        actorSource).run w = (some true, w')
      ↔ Grantable pipelineService userId stageId resolutionReference w.state.stage.current
        ∧ ∃ asked resolved rest, w.replies = .now asked :: .now resolved :: rest
          ∧ w' = ⟨grantedSession F platform
            (auditRecord actorSource resolved resolutionReference stageId) asked w.state, rest,
            w.trace⟩ := by
  constructor
  · intro returned
    have spec : Proc.wp (requestQuarantineReconciliation F platform pipelineService userId stageId
        resolutionReference actorSource) (fun eligible v => eligible = true →
          Grantable pipelineService userId stageId resolutionReference w.state.stage.current
            ∧ ∃ asked resolved rest, w.replies = .now asked :: .now resolved :: rest
              ∧ v = ⟨grantedSession F platform
                (auditRecord actorSource resolved resolutionReference stageId) asked w.state, rest,
                w.trace⟩) (fun _ => True) w := by
      unfold requestQuarantineReconciliation
      split
      · exact nofun
      next asks =>
      rw [wp_bind, wp_stageRow]
      split
      · exact nofun
      next found =>
      unfold makeQuarantineGetEligible
      rw [wp_bind, wp_bind, wp_stageRow]
      split
      · exact nofun
      next held =>
      split
      · exact nofun
      next awaiting =>
      rw [wp_bind]
      apply wp_utcNow_reply trivial
      intro asked answers clock
      rw [wp_bind, wp_setStage, wp_pure]
      simp only [if_true]
      rw [wp_bind]
      apply wp_utcNow_reply trivial
      intro resolved rest later
      rw [wp_bind, wp_setStage, wp_bind, wp_flush, wp_pure]
      intro _
      obtain ⟨served, some⟩ := not_or.mp asks
      obtain ⟨held, known⟩ := not_or.mp held
      refine ⟨⟨Bool.eq_true_of_not_eq_false served, some, Decidable.not_not.mp found,
        Bool.eq_false_of_not_eq_true held, known, Decidable.not_not.mp awaiting⟩, asked, resolved,
        rest, ?_, rfl⟩
      rw [clock, show answers = .now resolved :: rest from later]
    unfold Proc.wp at spec
    rw [show requestQuarantineReconciliation F platform pipelineService userId stageId
      resolutionReference actorSource w = (some true, w') from returned] at spec
    exact spec rfl
  · rintro ⟨⟨served, some, found, held, known, awaiting⟩, asked, resolved, rest, clock, after⟩
    have spec : Proc.wp (requestQuarantineReconciliation F platform pipelineService userId stageId
        resolutionReference actorSource) (fun eligible v => eligible = true ∧ v = w')
        (fun _ => False) w := by
      unfold requestQuarantineReconciliation
      rw [if_neg (not_or.mpr ⟨by simp [served], some⟩), wp_bind, wp_stageRow,
        if_neg (not_not.mpr found)]
      unfold makeQuarantineGetEligible
      rw [wp_bind, wp_bind, wp_stageRow, if_neg (not_or.mpr ⟨by simp [held], known⟩),
        if_neg (not_not.mpr awaiting), wp_bind, wp_utcNow_cons clock, wp_bind, wp_setStage, wp_pure]
      simp only [if_true]
      rw [wp_bind, wp_utcNow_cons rfl, wp_bind, wp_setStage, wp_bind, wp_flush, wp_pure]
      exact ⟨rfl, after.symm⟩
    unfold Proc.wp at spec
    unfold Proc.run
    split at spec
    · next heq => rw [heq, spec.1, spec.2]
    · exact spec.elim

/-- What a process gives is what it gives. -/
theorem wp_own {ρ ε σ α : Type} {p : Proc ρ ε σ α} (w : World ρ ε σ) :
    wp p (fun a v => p.run w = (some a, v)) (fun v => p.run w = (none, v)) w := by
  unfold wp Proc.run
  cases p w with
  | mk r v => cases r <;> rfl

/-- A granted request writes what the operation of the run writes, given its audit text. -/
theorem requestReconciliation_of_request {w w' : StageWorld}
    (granted : (requestQuarantineReconciliation F platform pipelineService userId stageId
      resolutionReference actorSource).run w = (some true, w')) (later : List Reply) :
    ∃ asked resolved, (requestReconciliation platform (auditText F
        (auditRecord actorSource resolved resolutionReference stageId))).run
          { w with replies := .now asked :: later }
      = (commit platform).run { w' with replies := later } := by
  obtain ⟨⟨_, _, _, held, known, awaiting⟩, asked, resolved, rest, _, rfl⟩ :=
    request_true_iff.mp granted
  refine ⟨asked, resolved, ?_⟩
  have spec : Proc.wp (requestReconciliation platform (auditText F
        (auditRecord actorSource resolved resolutionReference stageId)))
      (fun u v => (commit platform).run ⟨grantedSession F platform
        (auditRecord actorSource resolved resolutionReference stageId) asked w.state, later,
        w.trace⟩ = (some u, v))
      (fun v => (commit platform).run ⟨grantedSession F platform
        (auditRecord actorSource resolved resolutionReference stageId) asked w.state, later,
        w.trace⟩ = (none, v))
      { w with replies := .now asked :: later } := by
    unfold requestReconciliation makeQuarantineGetEligible
    rw [wp_bind, wp_bind, wp_stageRow, if_neg (not_or.mpr ⟨by simp [held], known⟩),
      if_neg (not_not.mpr awaiting), wp_bind, wp_utcNow_cons rfl, wp_bind, wp_setStage, wp_pure]
    simp only [if_true]
    rw [wp_bind, wp_setStage, wp_bind, wp_flush]
    exact wp_own _
  unfold Proc.wp at spec
  unfold Proc.run
  split at spec
  · next heq => rw [heq, ← spec]; rfl
  · next heq => rw [heq, ← spec]; rfl

/-- A process that comes back went through its first part. -/
theorem run_bind {ρ ε σ α β : Type} {p : Proc ρ ε σ β} {f : β → Proc ρ ε σ α}
    {w w' : World ρ ε σ} {a : α} (back : (p >>= f).run w = (some a, w')) :
    ∃ b v, p.run w = (some b, v) ∧ (f b).run v = (some a, w') := by
  simp only [run, bind] at back ⊢
  split at back
  · next b v first => exact ⟨b, v, first, back⟩
  · cases back

/-- What the route answers for is a request that was granted, committed. -/
theorem reconcile_ok {user : Option Int} {w w' : StageWorld}
    (ok : (reconcileQuarantinedSummary F platform user stageId resolutionReference).run w
      = (some (.ok ()), w')) :
    ∃ userId v, user = some userId ∧ AcceptedReference resolutionReference
      ∧ (requestQuarantineReconciliation F platform true userId stageId resolutionReference
          "admin_bearer").run w = (some true, v)
      ∧ (commit platform).run v = (some (), w') := by
  unfold reconcileQuarantinedSummary at ok
  cases user with
  | none => cases ok
  | some userId =>
    simp only at ok
    split at ok
    · cases ok
    next accepted =>
    obtain ⟨stage, v, loaded, ok⟩ := run_bind ok
    cases loaded
    split at ok
    · cases ok
    obtain ⟨eligible, v, asked, ok⟩ := run_bind ok
    obtain ⟨_, v', written, ok⟩ := run_bind ok
    cases eligible with
    | false => cases ok
    | true =>
      cases ok
      exact ⟨userId, v, rfl, Decidable.not_not.mp accepted, asked, written⟩

/-- What the route answers for is an operation of the stage's runs. -/
theorem reconcile_performs {user : Option Int} {w w' : StageWorld}
    (ok : (reconcileQuarantinedSummary F platform user stageId resolutionReference).run w
      = (some (.ok ()), w')) :
    ∃ audit replies, perform platform (.request audit replies) w = w' := by
  obtain ⟨userId, v, -, -, granted, committed⟩ := reconcile_ok ok
  obtain ⟨asked, resolved, same⟩ := requestReconciliation_of_request granted v.replies
  have ran := same.trans committed
  refine ⟨auditText F (auditRecord "admin_bearer" resolved resolutionReference stageId),
    .now asked :: v.replies, ?_⟩
  unfold perform
  change recover _ ((requestReconciliation platform _).run
    { w with replies := .now asked :: v.replies }) = w'
  rw [ran]
  rfl

/-- The stored reason decodes to the record of the transition. -/
def AuditKept (F : FloatText) (record : Dict) (r : PipelineStage) : Prop :=
  ∃ reason, r.reconciliationReason = some reason ∧ Decodes F reason record

theorem grantedSession_reason {record : Dict} {asked : Time} {s : StageSession} :
    (grantedSession F platform record asked s).stage.flushed.reconciliationReason
      = some (auditText F record) := by
  obtain ⟨plan, written⟩ := Instance.written_eq_set planColumn platform.flushRule
    (s.stage.modify (Ledger.eligibleRow asked (auditText F record)))
  rw [grantedSession, StageSession.flush]
  simp only [Instance.flush_flushed, written]
  rfl

/-- After a request that returns true the stored reason decodes to the record of the
transition exactly when the record is no longer than the column's bound. -/
theorem audit_decodes_iff {w w' : StageWorld}
    (granted : (requestQuarantineReconciliation F platform pipelineService userId stageId
      resolutionReference actorSource).run w = (some true, w')) :
    ∃ asked resolved rest, w.replies = .now asked :: .now resolved :: rest
      ∧ (AuditKept F (auditRecord actorSource resolved resolutionReference stageId)
          w'.state.stage.flushed
        ↔ auditLength actorSource resolved resolutionReference stageId ≤ 1024) := by
  obtain ⟨_, asked, resolved, rest, clock, rfl⟩ := request_true_iff.mp granted
  refine ⟨asked, resolved, rest, clock, ?_⟩
  simp only [AuditKept, grantedSession_reason, Option.some.injEq, exists_eq_left']
  exact decodes_auditText

end

namespace Sample

/-- A stage whose task waits for its operator. -/
def awaitingStage : PipelineStage :=
  { PipelineStage.new 7 11 3 .summary with
    quarantinedAt := some 0
    brokerTaskId := some "task-1"
    reconciliationStatus := some .awaitingOperatorResolution }

def awaitingWorld : StageWorld :=
  { openSession awaitingStage Sample.video with
    replies := [.now 1709210096000000, .now 1709210096000789] }

def plainFloats : FloatText := ⟨fun _ => [], fun _ => 0⟩

/-- As long as the service keeps, and every character an astral one. -/
def astralReference : String := String.ofList (List.replicate 128 (Char.ofNat 0x1f600))

/-- The session the request leaves. -/
def auditedWorld (resolutionReference : String) : StageWorld :=
  ⟨grantedSession plainFloats (platform .assigned)
    (auditRecord "admin_bearer" 1709210096000789 resolutionReference 7) 1709210096000000
    awaitingWorld.state, [], []⟩

theorem request_awaitingStage {resolutionReference : String}
    (accepted : AcceptedReference resolutionReference) :
    (requestQuarantineReconciliation plainFloats (platform .assigned) true 3 7 resolutionReference
      "admin_bearer").run awaitingWorld = (some true, auditedWorld resolutionReference) :=
  request_true_iff.mpr ⟨⟨rfl, accepted.1, ⟨rfl, rfl, rfl⟩, rfl, by decide, rfl⟩, _, _, _, rfl, rfl⟩

end Sample

theorem audit_decodes_cleared : ∃ asked resolved rest,
    Sample.awaitingWorld.replies = .now asked :: .now resolved :: rest
      ∧ (AuditKept Sample.plainFloats (auditRecord "admin_bearer" resolved "ticket 42" 7)
          (Sample.auditedWorld "ticket 42").state.stage.flushed
        ↔ auditLength "admin_bearer" resolved "ticket 42" 7 ≤ 1024) :=
  audit_decodes_iff (Sample.request_awaitingStage (by decide +kernel))

/-- An operator's reference the route accepts, whose record is cut. -/
theorem astral_audit_cut : AcceptedReference Sample.astralReference
    ∧ (requestQuarantineReconciliation Sample.plainFloats (Sample.platform .assigned) true 3 7
        Sample.astralReference "admin_bearer").run Sample.awaitingWorld
      = (some true, Sample.auditedWorld Sample.astralReference)
    ∧ ∃ reason,
      (Sample.auditedWorld Sample.astralReference).state.stage.flushed.reconciliationReason
        = some reason ∧ loads Sample.plainFloats reason.toList = none := by
  have accepted : AcceptedReference Sample.astralReference :=
    accepted_replicate (by decide) (by omega) (by omega)
  exact ⟨accepted, Sample.request_awaitingStage accepted, _, grantedSession_reason,
    loads_auditText_cut (over_replicate (by decide) (by omega) (by decide))⟩

end YTPipe
