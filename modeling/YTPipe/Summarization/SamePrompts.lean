import YTPipe.Summarization.Service

/-!
# One prompt plan on both legacy routes

The two routes ask for the same texts in the same order. The gateway takes its
final prompt apart at the marker and puts it together again; the marker stands
nowhere before its place.
-/

namespace YTPipe.Summarization

open Broker

/-! What a conversation comes to. -/

section

variable {α ε β γ : Type}

theorem run_bind {p : Talk α ε β} {f : β → Talk α ε γ} {asked left : List α} {b : β}
    (h : p.run.run asked = (.ok b, left)) : (p >>= f).run.run asked = (f b).run.run left := by
  simp only [ExceptT.run_bind, StateT.run_bind, h]
  rfl

theorem run_ask (server : List α → γ) (question : α) (asked : List α) :
    (ask server question : Talk α ε γ).run.run asked
      = (.ok (server (asked ++ [question])), asked ++ [question]) := rfl

/-- The replies to prompts asked one after the other, after what was asked before. -/
def replies (reply : List Text → Text) : List Text → List Text → List Text
  | _, [] => []
  | asked, prompt :: prompts =>
    reply (asked ++ [prompt]) :: replies reply (asked ++ [prompt]) prompts

/-- The talk asks for one prompt and returns the reply. -/
def Asks (promptOf : α → Text) (reply : List Text → Text) (prompt : Text) (p : Talk α ε Text) :
    Prop :=
  ∀ asked, ∃ question, promptOf question = prompt ∧
    p.run.run asked = (.ok (reply (asked.map promptOf ++ [prompt])), asked ++ [question])

variable {promptOf : α → Text} {reply : List Text → Text}

theorem Asks.mapM {f : β → Talk α ε Text} (prompt : β → Text) (items : List β)
    (asks : ∀ b ∈ items, Asks promptOf reply (prompt b) (f b)) (asked : List α) :
    ∃ left, left.map promptOf = asked.map promptOf ++ items.map prompt ∧
      (items.mapM f).run.run asked =
        (.ok (replies reply (asked.map promptOf) (items.map prompt)), left) := by
  induction items generalizing asked with
  | nil => exact ⟨asked, by simp, rfl⟩
  | cons b items ih =>
    obtain ⟨question, same, first⟩ := asks b List.mem_cons_self asked
    obtain ⟨left, issued, rest⟩ :=
      ih (fun b mem => asks b (List.mem_cons_of_mem _ mem)) (asked ++ [question])
    refine ⟨left, by simp [issued, same], ?_⟩
    rw [List.mapM_cons, run_bind first, run_bind rest]
    rw [List.map_append, List.map_singleton, same]
    rfl

end

/-! The prompts. -/

/-- The prompts of a transcript, when each is answered by all that were asked so far. -/
def promptPlan (reply : List Text → Text) (transcript : Text) : List Text :=
  if transcript.length ≤ directTranscriptCharacterLimit then [directPrompt transcript]
  else
    let fragments := (splitText transcriptChunkCharacterLimit transcript).map fragmentPrompt
    fragments ++ [aggregatePrompt (replies reply [] fragments)]

theorem clear_literal {sep : Text} (text : List Char) (h : Text.clear sep text = true) :
    Text.clear sep (String.ofList text).toList = true := by
  rw [String.toList_ofList]
  exact h

theorem clear_strings {sep : Text} {s t : String} (front : Text.clear sep s.toList = true)
    (back : Text.clear sep t.toList = true) : Text.clear sep (s ++ t).toList = true := by
  rw [String.toList_append]
  exact Text.clear_append front back

theorem partialsMarker_eq : partialsMarker =
    ['R', 'E', 'S', 'U', 'M', 'E', 'N', 'E', 'S', ' ', 'P', 'A', 'R', 'C', 'I', 'A', 'L', 'E', 'S',
      ':', '\n', '\n'] := String.toList_ofList

/-- The marker stands nowhere in the instructions. -/
theorem aggregateHead_clear : Text.clear partialsMarker aggregateHead = true := by
  unfold aggregateHead finalSummaryInstructions
  rw [partialsMarker_eq]
  repeat' with_reducible apply clear_strings
  all_goals exact clear_literal _ (by decide +kernel)

/-- The gateway's final prompt, taken apart and filled, is the service's. -/
theorem splitOnce_aggregatePrompt (partials : List Text) :
    Text.splitOnce partialsMarker (aggregatePrompt partials)
      = some (aggregateHead, Text.join partialSeparator partials) := by
  rw [aggregatePrompt, List.append_assoc]
  exact Text.splitOnce_append aggregateHead_clear

/-- Every reply is left as it is by both checks. -/
def Unchanged (reply : List Text → Text) : Prop :=
  ∀ asked, Text.strip (reply asked) = reply asked ∧
    validateBrokerOutput (reply asked) = some (reply asked)

theorem validateBrokerOutput_nil : validateBrokerOutput [] = none := by decide

section

variable {reply : List Text → Text}

theorem Unchanged.ne_nil (unchanged : Unchanged reply) (asked : List Text) : reply asked ≠ [] := by
  intro none_
  have valid := (unchanged asked).2
  rw [none_, validateBrokerOutput_nil] at valid
  cases valid

/-! The direct service. -/

/-- The answer is a completion with this content. -/
def Completion (answer : DirectAnswer) (content : Text) : Prop :=
  ∃ (data choice message : Json.Dict) (rest : List Json) (detail : Option String),
    answer = .response 200 (some (.obj data)) detail ∧ data.hasKey "error" = false ∧
    data.get? "choices" = some (.arr (.obj choice :: rest)) ∧ choice.hasKey "message" = true ∧
    choice.getDict? "message" = some message ∧
    message.getStr? "content" = some (String.ofList content)

theorem readAnswer_completion {answer : DirectAnswer} {content : Text}
    (completed : Completion answer content) (text : Text.strip content ≠ []) :
    readAnswer answer = .ok (Text.strip content) := by
  obtain ⟨data, choice, message, rest, detail, rfl, good, choices, has, found, said⟩ := completed
  simp [readAnswer, readCompletion, readChoice, good, choices, has, found, said, text]

theorem requestSummary_asks {server : List ChatRequest → DirectAnswer}
    (service : SummarizationService) (unchanged : Unchanged reply)
    (completes : ∀ asked, Completion (server asked) (reply (asked.map ChatRequest.userPrompt)))
    (prompt : Text) :
    Asks ChatRequest.userPrompt reply prompt (service.requestSummary server prompt) := by
  intro asked
  let question : ChatRequest :=
    ⟨"gpt-3.5-turbo", summarizationSystemPrompt, prompt, 7 / 10, service.maxTokens, []⟩
  refine ⟨question, rfl, ?_⟩
  have completed := completes (asked ++ [question])
  rw [List.map_append, List.map_singleton] at completed
  have trimmed := (unchanged (asked.map ChatRequest.userPrompt ++ [prompt])).1
  have answered := readAnswer_completion completed (by rw [trimmed]; exact unchanged.ne_nil _)
  rw [trimmed] at answered
  unfold SummarizationService.requestSummary
  rw [run_bind (run_ask server question asked), answered]
  rfl

theorem service_follows {server : List ChatRequest → DirectAnswer} (service : SummarizationService)
    (unchanged : Unchanged reply)
    (completes : ∀ asked, Completion (server asked) (reply (asked.map ChatRequest.userPrompt)))
    (transcript : Text) :
    ∃ asked, asked.map ChatRequest.userPrompt = promptPlan reply transcript ∧
      (service.summarize server transcript).run.run []
        = (.ok (reply (promptPlan reply transcript)), asked) := by
  have asks := requestSummary_asks service unchanged completes
  unfold SummarizationService.summarize promptPlan
  split
  · obtain ⟨question, same, run⟩ := asks (directPrompt transcript) []
    exact ⟨[question], by rw [List.map_singleton, same], run⟩
  · obtain ⟨asked, issued, run⟩ := Asks.mapM fragmentPrompt
      (SummarizationService.splitTranscript transcript)
      (fun chunk _ => asks (fragmentPrompt chunk)) []
    rw [run_bind run]
    obtain ⟨question, same, last⟩ := asks (aggregatePrompt (replies reply []
      ((SummarizationService.splitTranscript transcript).map fragmentPrompt))) asked
    rw [issued] at last
    refine ⟨asked ++ [question], ?_, last⟩
    rw [List.map_append, issued, List.map_singleton, same]
    rfl

/-! The gateway. -/

section

variable {platform : Platform} {server : List Submission → Except Raised BrokerResult}
  {context : SummaryGatewayContext}

theorem submit_asks (unchanged : Unchanged reply)
    (completes : ∀ asked, ∃ reason,
      server asked = .ok ⟨reply (asked.map Submission.userPrompt), reason⟩)
    {operation : SummaryOperation}
    (keyed : (idempotencyKey platform context operation).isSome = true) :
    Asks Submission.userPrompt reply operation.userPrompt.toList
      (BrokerSummarizationGateway.submit platform server context operation) := by
  intro asked
  obtain ⟨key, made⟩ := Option.isSome_iff_exists.mp keyed
  let question : Submission := ⟨operation, key⟩
  refine ⟨question, rfl, ?_⟩
  obtain ⟨reason, answered⟩ := completes (asked ++ [question])
  rw [List.map_append, List.map_singleton] at answered
  have valid := (unchanged (asked.map Submission.userPrompt ++ [operation.userPrompt.toList])).2
  simp only [BrokerSummarizationGateway.submit, made, BrokerSummarizationGateway.submitWithKey]
  rw [run_bind (run_ask server question asked), answered]
  simp only [Submission.userPrompt, question] at valid ⊢
  rw [valid]
  rfl

/-- The kind and the ordinal of an operation make its key, not the prompt. -/
theorem idempotencyKey_prompt (operation : SummaryOperation) (prompt : String) :
    idempotencyKey platform context { operation with userPrompt := prompt }
      = idempotencyKey platform context operation := rfl

/-- A plan of one operation is that operation, whatever it is called. -/
theorem summarize_single {gateway : BrokerSummarizationGateway} {transcript : Text}
    {operation : SummaryOperation}
    (plan : Planner.planOperations transcript gateway.maxTokens = [operation])
    (asks : Asks Submission.userPrompt reply operation.userPrompt.toList
      (BrokerSummarizationGateway.submit platform server context operation)) :
    ∃ asked, asked.map Submission.userPrompt = ([operation.userPrompt.toList] : List Text) ∧
      (gateway.summarize platform server transcript (some context)).run.run []
        = (.ok (reply [operation.userPrompt.toList]), asked) := by
  obtain ⟨asked, issued, run⟩ := Asks.mapM
    (fun operation => operation.userPrompt.toList) [operation] (by simpa using asks) []
  refine ⟨asked, issued, ?_⟩
  simp only [BrokerSummarizationGateway.summarize, plan]
  rw [if_neg (by simp), run_bind run]
  rfl

/-- Partial operations, and a final one that is filled with what they gave. -/
theorem summarize_aggregate {gateway : BrokerSummarizationGateway} {transcript : Text}
    {fragments : List SummaryOperation} {final : SummaryOperation} {partials : List Text}
    (plan : Planner.planOperations transcript gateway.maxTokens = fragments ++ [final])
    (some_ : fragments ≠ []) (template : final.userPrompt.toList = aggregatePrompt partials)
    (asks : ∀ operation ∈ fragments, Asks Submission.userPrompt reply operation.userPrompt.toList
      (BrokerSummarizationGateway.submit platform server context operation))
    (finish : ∀ prompt, Asks Submission.userPrompt reply prompt
      (BrokerSummarizationGateway.submit platform server context
        { final with userPrompt := String.ofList prompt })) :
    let prompts := fragments.map fun operation => operation.userPrompt.toList
    let last := aggregatePrompt (replies reply [] prompts)
    ∃ asked, asked.map Submission.userPrompt = prompts ++ [last] ∧
      (gateway.summarize platform server transcript (some context)).run.run []
        = (.ok (reply (prompts ++ [last])), asked) := by
  intro prompts last
  obtain ⟨asked, issued, run⟩ := Asks.mapM _ fragments asks []
  obtain ⟨question, same, done⟩ := finish last asked
  rw [issued] at done
  have several : (fragments ++ [final]).length > 1 := by
    have := List.length_pos_of_ne_nil some_
    simp
    omega
  refine ⟨asked ++ [question], ?_, ?_⟩
  · rw [List.map_append, issued, List.map_singleton, same]
    rfl
  · simp only [BrokerSummarizationGateway.summarize, plan]
    rw [if_pos several, List.dropLast_concat, run_bind run, if_neg (by omega),
      List.getLast?_concat]
    simp only [template, splitOnce_aggregatePrompt]
    exact done

theorem gateway_follows (gateway : BrokerSummarizationGateway) (unchanged : Unchanged reply)
    (completes : ∀ asked, ∃ reason,
      server asked = .ok ⟨reply (asked.map Submission.userPrompt), reason⟩)
    (transcript : Text)
    (keyed : ∀ operation ∈ Planner.planOperations transcript gateway.maxTokens,
      (idempotencyKey platform context operation).isSome = true) :
    ∃ asked, asked.map Submission.userPrompt = promptPlan reply transcript ∧
      (gateway.summarize platform server transcript (some context)).run.run []
        = (.ok (reply (promptPlan reply transcript)), asked) := by
  have asks := fun operation mem => submit_asks unchanged completes (keyed operation mem)
  by_cases short : transcript.length ≤ directTranscriptCharacterLimit
  · have plan : Planner.planOperations transcript gateway.maxTokens
        = [Planner.operation "direct-final" 0 gateway.maxTokens (directPrompt transcript)] :=
      if_pos short
    rw [promptPlan, if_pos short]
    have first := summarize_single plan (asks _ (by rw [plan]; exact List.mem_cons_self))
    simpa only [Planner.operation, String.toList_ofList] using first
  · let chunks := Planner.splitTranscript transcript
    let fragments := chunks.mapIdx fun i chunk =>
      Planner.operation "partial" i gateway.maxTokens (fragmentPrompt chunk)
    let final := Planner.operation "aggregate-final" chunks.length gateway.maxTokens
      (aggregatePrompt (chunks.map fun _ => []))
    have plan : Planner.planOperations transcript gateway.maxTokens = fragments ++ [final] :=
      if_neg short
    have template : final.userPrompt.toList = aggregatePrompt (chunks.map fun _ => []) :=
      String.toList_ofList
    have prompts : (fragments.map fun operation => operation.userPrompt.toList)
        = chunks.map fragmentPrompt := by
      apply List.ext_getElem?
      intro i
      cases found : chunks[i]? <;> simp [fragments, Planner.operation, found]
    have whole : promptPlan reply transcript = (chunks.map fragmentPrompt)
        ++ [aggregatePrompt (replies reply [] (chunks.map fragmentPrompt))] := if_neg short
    by_cases none_ : fragments = []
    · -- white space only: the template is sent as it is
      have blank : chunks = [] := List.mapIdx_eq_nil_iff.mp none_
      rw [none_, List.nil_append] at plan
      have only := summarize_single plan (asks _ (by rw [plan]; exact List.mem_cons_self))
      rw [template, blank, List.map_nil] at only
      rw [whole, blank, List.map_nil, List.nil_append, replies]
      exact only
    · rw [whole, ← prompts]
      apply summarize_aggregate plan none_ template
      · intro operation mem
        exact asks operation (by rw [plan]; exact List.mem_append_left _ mem)
      · intro prompt
        have key : (idempotencyKey platform context
            { final with userPrompt := String.ofList prompt }).isSome = true := by
          rw [idempotencyKey_prompt]
          exact keyed final (by rw [plan]; exact List.mem_append_right _ List.mem_cons_self)
        simpa only [String.toList_ofList] using submit_asks unchanged completes key

end

/-- Both routes issue the prompts of one plan, in its order, and return the
reply to the last of them, when every request completes: the service's with a
completion, the gateway's with a key and a result. -/
theorem routes_agree (reply : List Text → Text) (unchanged : Unchanged reply)
    (service : SummarizationService) (direct : List ChatRequest → DirectAnswer)
    (completes : ∀ asked, Completion (direct asked) (reply (asked.map ChatRequest.userPrompt)))
    (platform : Platform) (gateway : BrokerSummarizationGateway) (context : SummaryGatewayContext)
    (broker : List Submission → Except Raised BrokerResult)
    (completes' : ∀ asked, ∃ reason,
      broker asked = .ok ⟨reply (asked.map Submission.userPrompt), reason⟩)
    (transcript : Text)
    (keyed : ∀ operation ∈ Planner.planOperations transcript gateway.maxTokens,
      (idempotencyKey platform context operation).isSome = true) :
    let one := (service.summarize direct transcript).run.run []
    let other := (gateway.summarize platform broker transcript (some context)).run.run []
    one.1 = .ok (reply (promptPlan reply transcript)) ∧
      other.1 = .ok (reply (promptPlan reply transcript)) ∧
      one.2.map ChatRequest.userPrompt = promptPlan reply transcript ∧
      other.2.map Submission.userPrompt = promptPlan reply transcript := by
  obtain ⟨asked, issued, run⟩ := service_follows service unchanged completes transcript
  obtain ⟨asked', issued', run'⟩ := gateway_follows gateway unchanged completes' transcript keyed
  simp only [run, run']
  exact ⟨trivial, trivial, issued, issued'⟩

/-- A text without a blank is cut at the limit. -/
theorem chunkLength_replicate {c : Char} (solid : c ≠ ' ') (limit n : Nat) :
    chunkLength limit (List.replicate n c) = limit := by
  have nowhere : Text.rfind (List.replicate n c) [' '] 0 limit = -1 := by
    unfold Text.rfind
    split
    · next i found =>
      have blank := List.find?_some found
      simp only [Text.startsWith, List.drop_replicate, Bool.and_eq_true] at blank
      cases left : n - i with
      | zero => simp [left] at blank
      | succ _ => simp [left, List.replicate_succ, solid.symm] at blank
    · rfl
  simp [chunkLength, nowhere]

theorem splitText_replicate {c : Char} (seen : Text.isSpace c = false) {limit n : Nat}
    (more : 0 < n) (fits : n ≤ limit) : splitText limit (List.replicate (limit + n) c)
      = [List.replicate limit c, List.replicate n c] := by
  have solid : c ≠ ' ' := by
    rintro rfl
    exact absurd seen (by decide)
  have firm (m : Nat) : (List.replicate m c).dropWhile Text.isSpace = List.replicate m c := by
    simp [seen]
  have whole : Text.strip (List.replicate (limit + n) c) = List.replicate (limit + n) c := by
    simp only [Text.strip, Text.rstrip, Text.lstrip, firm, List.reverse_replicate]
  obtain ⟨fuel, size⟩ : ∃ fuel, limit + n = fuel + 1 + 1 := ⟨limit + n - 2, by omega⟩
  have rest : (List.replicate (limit + n) c).drop limit = List.replicate n c := by
    rw [List.drop_replicate, Nat.add_sub_cancel_left]
  have first : splitRemaining limit (fuel + 1 + 1) (List.replicate (limit + n) c)
      = List.replicate limit c :: splitRemaining limit (fuel + 1) (List.replicate n c) := by
    rw [splitRemaining, if_pos (by rw [List.length_replicate]; omega)]
    simp only [chunkLength_replicate solid, rest, Text.lstrip, firm, List.take_replicate,
      Nat.min_eq_left (Nat.le_add_right limit n)]
  have last : splitRemaining limit (fuel + 1) (List.replicate n c) = [List.replicate n c] := by
    have some_ : ¬ (List.replicate n c).isEmpty = true := by
      rw [List.isEmpty_iff, List.replicate_eq_nil_iff]
      omega
    rw [splitRemaining, if_neg (by rw [List.length_replicate]; omega), if_neg some_]
  have enough : (List.replicate (limit + n) c).length = fuel + 1 + 1 :=
    List.length_replicate.trans size
  simp only [splitText, whole, enough, first, last]

/-- A summary both checks leave as it is. -/
def Sample.summary : Text := "RESUMEN\n\nUn tema.\n\nPUNTOS CLAVE\n\n• Una idea.".toList

def Sample.platform : Platform where
  sha256 _ := "93da9f7cd0437578b4ef2807dddf7abe2e7377386acbe62c8dadfc28fa3c7503"
  floatRepr _ := "1.0"
  urlparse s := some ⟨"", "", s, "", "", ""⟩
  urljoin _ location := some location
  unquote s := s
  awareDatetime _ := false
  flushRule := .assigned

def Sample.completion : DirectAnswer :=
  .response 200 (some (.obj [("choices", .arr [.obj [("message",
    .obj [("content", .str (String.ofList Sample.summary))])]])])) none

/-- A transcript of two fragments. -/
def Sample.transcript : Text := List.replicate (24000 + 6001) 'a'

theorem Sample.transcript_split : splitText transcriptChunkCharacterLimit Sample.transcript
    = [List.replicate 24000 'a', List.replicate 6001 'a'] :=
  splitText_replicate (by decide) (by decide) (by decide)

/-- Two fragments and the prompt over their replies. -/
theorem routes_agree_fragments :
    let reply := fun _ => Sample.summary
    let plan := promptPlan reply Sample.transcript
    let one := (SummarizationService.summarize ⟨512⟩ (fun _ => Sample.completion)
      Sample.transcript).run.run []
    let other := (BrokerSummarizationGateway.summarize Sample.platform ⟨512⟩
      (fun _ => .ok ⟨Sample.summary, "stop"⟩) Sample.transcript (some ⟨7, 0⟩)).run.run []
    plan = [fragmentPrompt (List.replicate 24000 'a'), fragmentPrompt (List.replicate 6001 'a'),
        aggregatePrompt [Sample.summary, Sample.summary]] ∧
      one.1 = .ok Sample.summary ∧ other.1 = .ok Sample.summary ∧
      one.2.map ChatRequest.userPrompt = plan ∧ other.2.map Submission.userPrompt = plan := by
  have long : ¬ Sample.transcript.length ≤ directTranscriptCharacterLimit := by
    rw [Sample.transcript, List.length_replicate]
    decide
  refine ⟨by rw [promptPlan, if_neg long, Sample.transcript_split]; rfl,
    routes_agree (fun _ => Sample.summary) ?_ ⟨512⟩ (fun _ => Sample.completion) ?_
      Sample.platform ⟨512⟩ ⟨7, 0⟩ (fun _ => .ok ⟨Sample.summary, "stop"⟩) ?_
      Sample.transcript ?_⟩
  · intro asked
    have kept : Text.strip Sample.summary = Sample.summary ∧
        validateBrokerOutput Sample.summary = some Sample.summary := by decide +kernel
    exact kept
  · intro asked
    exact ⟨_, _, _, _, _, rfl, by decide, rfl, by decide, rfl, rfl⟩
  · intro asked
    exact ⟨"stop", rfl⟩
  · intro operation mem
    -- the key is that of the kind and the ordinal
    have keyed : ∀ slot ∈ [("partial", (0 : Int)), ("partial", 1), ("aggregate-final", 2)],
        ∀ prompt, (idempotencyKey Sample.platform ⟨7, 0⟩
          (Planner.operation slot.1 slot.2 512 prompt)).isSome = true := by
      have bare : ∀ slot ∈ [("partial", (0 : Int)), ("partial", 1), ("aggregate-final", 2)],
          (idempotencyKey Sample.platform ⟨7, 0⟩
            (Planner.operation slot.1 slot.2 512 [])).isSome = true := by decide +kernel
      intro slot mem prompt
      exact bare slot mem
    rw [Planner.planOperations, if_neg long, Planner.splitTranscript, Sample.transcript_split] at mem
    rcases List.mem_append.mp mem with partial_ | final
    · rcases List.mem_cons.mp partial_ with rfl | partial_
      · exact keyed ("partial", 0) (by decide) _
      · obtain rfl := List.mem_singleton.mp partial_
        exact keyed ("partial", 1) (by decide) _
    · obtain rfl := List.mem_singleton.mp final
      exact keyed ("aggregate-final", 2) (by decide) _

end

end YTPipe.Summarization
