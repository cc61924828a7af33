import YTPipe.Polling.Metadata

/-!
# Durations of videos

What the services make of a duration as the YouTube Data API writes it:
`P[dD]T[hH][mM][sS]`, with some of the parts.
-/

namespace YTPipe.Polling

open Proc

/-- The parts of a duration; one that is not written is `none`. -/
structure Duration where
  days : Option Nat
  hours : Option Nat
  minutes : Option Nat
  seconds : Option Nat
  deriving DecidableEq, Repr

namespace Duration

def part (unit : Char) (n : Option Nat) : Text := n.elim [] fun n => Nat.toDigits 10 n ++ [unit]

/-- The parts below a day. -/
def time (c : Duration) : Text := part 'H' c.hours ++ (part 'M' c.minutes ++ part 'S' c.seconds)

/-- How a duration is written: where no part follows the `T`, with it or without. -/
def spellings (c : Duration) : List Text :=
  ('P' :: (part 'D' c.days ++ 'T' :: c.time))
    :: if c.time = [] then ['P' :: part 'D' c.days] else []

/-- Some part is written. -/
def Written (c : Duration) : Prop :=
  c.days.isSome ∨ c.hours.isSome ∨ c.minutes.isSome ∨ c.seconds.isSome

def total (c : Duration) : Nat :=
  86400 * c.days.getD 0 + 3600 * c.hours.getD 0 + 60 * c.minutes.getD 0 + c.seconds.getD 0

end Duration

/-- The ASCII digits are digits, and the units are none. -/
structure ReadsDigits (platform : PollPlatform) : Prop where
  digit : ∀ c : Char, c.isDigit = true → platform.digitValue c = some (c.toNat - '0'.toNat)
  unit : ∀ c ∈ ['H', 'M', 'S'], platform.digitValue c = none

/-- `int` converts the digits of `n`. -/
def Convertible (platform : PollPlatform) (n : Nat) : Prop :=
  platform.maxStrDigits.any (· < (Nat.toDigits 10 n).length) = false

instance (platform : PollPlatform) (n : Nat) : Decidable (Convertible platform n) :=
  inferInstanceAs (Decidable (_ = false))

/-- `int` converts the parts below a day. -/
def Duration.Convertible (platform : PollPlatform) (c : Duration) : Prop :=
  ∀ n, c.hours = some n ∨ c.minutes = some n ∨ c.seconds = some n → Polling.Convertible platform n

section digits

variable {platform : PollPlatform} (reads : ReadsDigits platform)

def digits (n : Option Nat) : List Nat :=
  n.elim [] fun n => (Nat.toDigits 10 n).map fun c => c.toNat - '0'.toNat

theorem digits_ne_nil {n : Option Nat} : digits n ≠ [] ↔ n.isSome = true := by
  cases n with
  | none => simp [digits]
  | some n => simp [digits]

theorem intOf_digits (n : Option Nat) :
    intOf platform (digits n) = if platform.maxStrDigits.any (· < (digits n).length) then
      .error (.other "ValueError") else .ok (n.getD 0) := by
  have value : (digits n).foldl (fun n d => n * 10 + d) 0 = n.getD 0 := by
    cases n with
    | none => rfl
    | some n =>
      have read : Nat.ofDigitChars 10 (Nat.toDigits 10 n) 0 = n := Nat.ofDigitChars_ten_toDigits
      simp only [digits, Option.elim_some, List.foldl_map, Option.getD_some]
      rw [Nat.ofDigitChars] at read
      simpa only [Nat.mul_comm] using read
  rw [intOf, value]

theorem intOf_digits_ok {n : Option Nat} {value : Nat} :
    intOf platform (digits n) = .ok value
      ↔ value = n.getD 0 ∧ ∀ m, n = some m → Convertible platform m := by
  rw [intOf_digits]
  cases n with
  | none =>
    have short : platform.maxStrDigits.any (· < (digits none).length) = false := by
      cases platform.maxStrDigits <;> rfl
    simp [short, eq_comm]
  | some m =>
    have length : (digits (some m)).length = (Nat.toDigits 10 m).length := List.length_map ..
    rw [length]
    by_cases fits : Convertible platform m
    · have fits' : platform.maxStrDigits.any (· < (Nat.toDigits 10 m).length) = false := fits
      simp [fits', fits, eq_comm]
    · have long : platform.maxStrDigits.any (· < (Nat.toDigits 10 m).length) = true :=
        Bool.not_eq_false _ |>.mp fits
      simp [long, fits]

include reads

theorem takeDigits_run {t : Text} (ht : ∀ c ∈ t, c.isDigit = true) (rest : Text) :
    takeDigits platform (t ++ rest)
      = (t.map (fun c => c.toNat - '0'.toNat) ++ (takeDigits platform rest).1,
          (takeDigits platform rest).2) := by
  induction t with
  | nil => rfl
  | cons c t ih =>
    have found := reads.digit c (ht c (List.mem_cons_self ..))
    rw [List.cons_append, takeDigits]
    simp only [found, ih fun d hd => ht d (List.mem_cons_of_mem _ hd), List.map_cons,
      List.cons_append]

/-- The digits of a part end at its unit. -/
theorem takeDigits_part {unit : Char} (hu : unit ∈ ['H', 'M', 'S']) (n : Nat) (rest : Text) :
    takeDigits platform (Nat.toDigits 10 n ++ unit :: rest) = (digits (some n), unit :: rest) := by
  rw [takeDigits_run reads fun c hc => Nat.isDigit_of_mem_toDigits (by decide) (by decide) hc]
  simp only [takeDigits, reads.unit unit hu, List.append_nil]
  rfl

/-- A part is read with its digits, before what is no such part. -/
theorem durationPart_part {unit : Char} (hu : unit ∈ ['H', 'M', 'S']) (n : Option Nat) {rest : Text}
    (other : durationPart platform unit rest = ([], rest)) :
    durationPart platform unit (Duration.part unit n ++ rest) = (digits n, rest) := by
  cases n with
  | none => exact other
  | some n =>
    obtain ⟨d, ds, some⟩ := List.exists_cons_of_ne_nil (digits_ne_nil.mpr (rfl : (some n).isSome = true))
    simp only [Duration.part, Option.elim_some, List.append_assoc, List.singleton_append]
    rw [durationPart, takeDigits_part reads hu, some]
    exact if_pos rfl

/-- A part of another unit is left alone. -/
theorem durationPart_other {unit other : Char} (apart : other ≠ unit) (ho : other ∈ ['H', 'M', 'S'])
    (n : Option Nat) {rest : Text} (none' : durationPart platform unit rest = ([], rest)) :
    durationPart platform unit (Duration.part other n ++ rest)
      = ([], Duration.part other n ++ rest) := by
  cases n with
  | none => exact none'
  | some n =>
    obtain ⟨d, ds, some⟩ := List.exists_cons_of_ne_nil (digits_ne_nil.mpr (rfl : (some n).isSome = true))
    simp only [Duration.part, Option.elim_some, List.append_assoc, List.singleton_append]
    rw [durationPart, takeDigits_part reads ho, some]
    exact if_neg apart

theorem parse_time (c : Duration) :
    parseIso8601DurationSeconds platform ('P' :: 'T' :: c.time) =
      if digits c.hours ≠ [] ∨ digits c.minutes ≠ [] ∨ digits c.seconds ≠ [] then do
        let hours ← intOf platform (digits c.hours)
        let minutes ← intOf platform (digits c.minutes)
        let seconds ← intOf platform (digits c.seconds)
        return some (hours * 3600 + minutes * 60 + seconds)
      else .ok none := by
  have last (unit : Char) : durationPart platform unit [] = ([], []) := rfl
  have later (unit : Char) (apart : 'S' ≠ unit) := durationPart_other reads apart (by decide)
    c.seconds (last unit)
  have hours := durationPart_part reads (by decide : 'H' ∈ ['H', 'M', 'S']) c.hours
    (durationPart_other reads (by decide : 'M' ≠ 'H') (by decide) c.minutes (later 'H' (by decide)))
  have minutes := durationPart_part reads (by decide : 'M' ∈ ['H', 'M', 'S']) c.minutes
    (later 'M' (by decide))
  have seconds := durationPart_part reads (by decide : 'S' ∈ ['H', 'M', 'S']) c.seconds (last 'S')
  have time : c.time = Duration.part 'H' c.hours
      ++ (Duration.part 'M' c.minutes ++ (Duration.part 'S' c.seconds ++ [])) := by
    rw [List.append_nil]
    rfl
  rw [parseIso8601DurationSeconds, time]
  simp only [hours, minutes, seconds, true_or, true_and]

end digits

/-- A duration below a day is read, as far as `int` converts its parts. -/
theorem parse_time_ok {platform : PollPlatform} (reads : ReadsDigits platform) {c : Duration}
    (below : c.days = none) (written : c.Written) {seconds : Nat} :
    parseIso8601DurationSeconds platform ('P' :: 'T' :: c.time) = .ok (some seconds)
      ↔ seconds = c.total ∧ c.Convertible platform := by
  have some_part : digits c.hours ≠ [] ∨ digits c.minutes ≠ [] ∨ digits c.seconds ≠ [] := by
    simp only [digits_ne_nil]
    exact written.resolve_left (by simp [below])
  rw [parse_time reads, if_pos some_part]
  have total : c.hours.getD 0 * 3600 + c.minutes.getD 0 * 60 + c.seconds.getD 0 = c.total := by
    simp only [Duration.total, below, Option.getD_none]
    omega
  simp only [bind_eq_ok, intOf_digits_ok]
  constructor
  · rintro ⟨_, ⟨rfl, hours⟩, _, ⟨rfl, minutes⟩, _, ⟨rfl, seconds⟩, same⟩
    rw [total] at same
    cases same
    refine ⟨rfl, fun n part => ?_⟩
    rcases part with part | part | part
    · exact hours n part
    · exact minutes n part
    · exact seconds n part
  · rintro ⟨rfl, converts⟩
    refine ⟨_, ⟨rfl, fun n part => converts n (.inl part)⟩, _,
      ⟨rfl, fun n part => converts n (.inr (.inl part))⟩, _,
      ⟨rfl, fun n part => converts n (.inr (.inr part))⟩, ?_⟩
    rw [total]
    rfl

/-- A duration that has days is not. -/
theorem parse_days {platform : PollPlatform} {days : Nat} (rest : Text) :
    parseIso8601DurationSeconds platform ('P' :: (Duration.part 'D' (some days) ++ rest))
      = .ok none := by
  cases ht : Nat.toDigits 10 days with
  | nil => exact absurd ht Nat.toDigits_ne_nil
  | cons d ds =>
    have digit : d.isDigit = true :=
      Nat.isDigit_of_mem_toDigits (by decide) (by decide) (ht ▸ List.mem_cons_self ..)
    have plain : d ≠ 'T' := by
      rintro rfl
      exact absurd digit (by decide)
    simp only [Duration.part, Option.elim_some, ht, List.cons_append]
    unfold parseIso8601DurationSeconds
    split
    · next same =>
      injection same with _ same
      injection same with same _
      exact absurd same plain
    · rfl

/-- The payload of a video, well formed but for its duration `text`. -/
structure Describes (platform : PollPlatform) (title : String) (text : Text) (payload : Json) :
    Prop where
  members : ∃ items item snippet details, (Json.asDict payload).bind (·.get? "items")
      = some (.arr (item :: items))
    ∧ (Json.asDict item).bind (·.getDict? "snippet") = some snippet
    ∧ (Json.asDict item).bind (·.getDict? "contentDetails") = some details
    ∧ (∃ channelId, requiredText snippet "channelId" = some channelId)
    ∧ (∃ channelTitle, requiredText snippet "channelTitle" = some channelTitle)
    ∧ requiredText snippet "title" = some title
    ∧ details.getStr? "duration" = some (String.ofList text)
    ∧ ∃ published, parsePublished platform ((snippet.get? "publishedAt").getD .null) = .ok published

/-- A video that is not known to be a Short or none, in memory, and what is asked for it. -/
structure Unclassified (video : Video) (text : Text) (w : PollWorld) : Prop where
  found : w.state.db.current.videos.get video.youtubeVideoId = some video
  named : video.youtubeVideoId ≠ ""
  unknown : video.isShort = none
  unmarked : titleIndicatesShort (video.title.getD []) = false
  answers : ∃ flushed rest, w.replies = .duration (some text) :: .done flushed :: rest

/-- What the services make of `text`, a duration with the parts `c`. -/
structure Decodes (platform : PollPlatform) (c : Duration) (text : Text) : Prop where
  parsed : parseIso8601DurationSeconds platform text = .ok (some c.total)
  /-- The metadata is accepted, and classified by the duration. -/
  accepted : ∀ title payload id, Describes platform title text payload →
    ∃ metadata, parseMetadata platform payload id = .ok metadata ∧ metadata.durationSeconds = c.total
      ∧ (titleIndicatesShort title.toList = false → (metadata.isShort = true ↔ c.total ≤ 60))
  /-- The poll classifies the video by the duration. -/
  polled : ∀ video w, Unclassified video text w → ∃ short,
    ((attemptDetectAndMarkShort platform video.youtubeVideoId).run
        w).2.state.db.current.videos.get video.youtubeVideoId
      = some { video with isShort := some short } ∧ (short = true ↔ c.total ≤ 60)

section services

variable {platform : PollPlatform} {c : Duration} {text : Text}

theorem parseMetadata_described {title : String} {payload : Json} {seconds : Nat} (id : String)
    (parsed : parseIso8601DurationSeconds platform text = .ok (some seconds))
    (described : Describes platform title text payload) :
    ∃ metadata, parseMetadata platform payload id = .ok metadata
      ∧ metadata.durationSeconds = seconds
      ∧ metadata.isShort = classifyShort title.toList seconds := by
  obtain ⟨items, item, snippet, details, hitems, hsnippet, hdetails, ⟨channelId, hid⟩,
    ⟨channelTitle, htitle⟩, hname, hduration, published, hpublished⟩ := described.members
  refine ⟨⟨id, channelId, channelTitle, title.toList, published, seconds,
    classifyShort title.toList seconds⟩, ?_, rfl, rfl⟩
  simp only [parseMetadata, hitems, hsnippet, hdetails, hid, htitle, hname, hduration,
    String.toList_ofList, parsed, hpublished]
  rfl

theorem classifyShort_unmarked {title : Text} (unmarked : titleIndicatesShort title = false)
    (seconds : Nat) : classifyShort title seconds = true ↔ seconds ≤ 60 := by
  have plain : ¬ (title ≠ [] ∧ titleIndicatesShort title = true) := by simp [unmarked]
  rw [classifyShort, if_neg plain]
  exact decide_eq_true_iff

section polling

variable {w : PollWorld} {lost : PollWorld → Prop} {rest : List PollReply}

theorem wp_call_cons {β : Type} {view : PollReply → Option β} {post : β → PollWorld → Prop}
    {r : PollReply} {b : β} (hr : w.replies = r :: rest) (hv : viewOr view r = some (.ok b)) :
    wp (call view) post lost w ↔ post b { w with replies := rest } := by
  unfold call
  rw [wp_bind, wp_ask_cons hr hv]
  rfl

theorem wp_request_cons {β : Type} {view : PollReply → Option β} {r : PollReply}
    {post : Except (Bool × String) β → PollWorld → Prop} {answer : Except (Bool × String) β}
    (hr : w.replies = r :: rest) (hv : viewOr view r = some answer)
    (go : post answer { w with replies := rest, trace := .request w.state.quota :: w.trace }) :
    wp (request view) post lost w := by
  unfold request
  rw [wp_bind, wp_emit]
  exact (wp_ask_cons (w := { w with trace := .request w.state.quota :: w.trace }) hr hv).mpr go

/-- The duration that is answered is parsed. -/
theorem wp_fetchVideoDurationSeconds {post : Option Nat → PollWorld → Prop} {seconds : Nat}
    (parsed : parseIso8601DurationSeconds platform text = .ok (some seconds))
    (answers : w.replies = .duration (some text) :: rest)
    (go : ∀ v, v.state.db = w.state.db → v.replies = rest → post (some seconds) v) :
    wp (fetchVideoDurationSeconds platform) post lost w := by
  have asked : viewOr viewDuration (.duration (some text)) = some (.ok (some text)) := rfl
  unfold fetchVideoDurationSeconds setQuota
  rw [wp_bind, wp_modify, wp_bind]
  refine wp_request_cons answers asked ?_
  cases text with
  | nil => cases parsed
  | cons c text =>
    simp only [parsed]
    exact go _ rfl rfl

theorem wp_flush_cons {post : Unit → PollWorld → Prop} {flushed : Bool}
    (hr : w.replies = .done flushed :: rest)
    (go : ∀ v, v.state.db = w.state.db.flush → post () v) : wp flush post lost w := by
  unfold flush
  rw [wp_bind]
  exact (wp_call_cons hr rfl).mpr (go _ rfl)

theorem wp_attemptDetectAndMarkShort {video : Video} {seconds : Nat}
    (parsed : parseIso8601DurationSeconds platform text = .ok (some seconds))
    (h : Unclassified video text w) :
    wp (attemptDetectAndMarkShort platform video.youtubeVideoId) (fun _ v =>
      v.state.db.current.videos.get video.youtubeVideoId
        = some { video with isShort := some (decide (seconds ≤ 60)) }) lost w := by
  obtain ⟨flushed, rest, answers⟩ := h.answers
  unfold attemptDetectAndMarkShort
  rw [wp_bind, wp_inMemory, h.found]
  simp only [h.unknown, Option.isSome_none, Bool.false_eq_true, if_false, h.unmarked, and_false,
    if_neg h.named]
  rw [wp_bind, wp_attempt]
  refine wp_fetchVideoDurationSeconds parsed answers fun v db left => ?_
  simp only [wp_bind, setVideo, wp_modify]
  refine wp_flush_cons left fun u flushed => ?_
  rw [flushed, flush_current]
  change (v.state.db.current.setVideo _).videos.get _ = _
  rw [Db.setVideo, Table.get_alter, if_pos rfl, db]
  change (w.state.db.current.videos.get video.youtubeVideoId).map _ = _
  rw [h.found]
  rfl

end polling

end services

theorem Duration.part_eq_nil {unit : Char} {n : Option Nat} : part unit n = [] ↔ n = none := by
  cases n <;> simp [part]

/-- The days come first, and without days the `T`. -/
theorem Duration.spelled {c : Duration} {text : Text} (written : c.Written)
    (h : text ∈ c.spellings) :
    (∃ days rest, c.days = some days ∧ text = 'P' :: (part 'D' (some days) ++ rest))
      ∨ c.days = none ∧ text = 'P' :: 'T' :: c.time := by
  cases hd : c.days with
  | some days =>
    left
    simp only [spellings, hd, List.mem_cons] at h
    rcases h with rfl | h
    · exact ⟨days, _, rfl, rfl⟩
    · split at h
      · exact ⟨days, [], rfl, by rw [List.append_nil]; exact List.mem_singleton.mp h⟩
      · cases h
  | none =>
    right
    have time : c.time ≠ [] := by
      simp only [Duration.time, ne_eq, List.append_eq_nil_iff, part_eq_nil]
      rintro ⟨hours, minutes, seconds⟩
      simp [Written, hd, hours, minutes, seconds] at written
    simp only [spellings, hd, if_neg time, List.mem_singleton] at h
    exact ⟨rfl, h⟩

/-- Just the durations without days are decoded, as far as `int` converts their parts. -/
theorem decodes_iff (platform : PollPlatform) (reads : ReadsDigits platform) (c : Duration)
    (written : c.Written) (text : Text) (spelled : text ∈ c.spellings) :
    Decodes platform c text ↔ c.days = none ∧ c.Convertible platform := by
  rcases c.spelled written spelled with ⟨days, rest, hd, rfl⟩ | ⟨below, rfl⟩
  · constructor
    · intro decodes
      cases (parse_days rest).symm.trans decodes.parsed
    · rintro ⟨below, _⟩
      exact absurd (hd.symm.trans below) nofun
  · have parsed : _ ↔ c.total = c.total ∧ _ := parse_time_ok reads below written
    constructor
    · exact fun decodes => ⟨below, (parsed.mp decodes.parsed).2⟩
    · rintro ⟨_, converts⟩
      have parsed := parsed.mpr ⟨rfl, converts⟩
      refine ⟨parsed, fun title payload id described => ?_, fun video w unclassified => ?_⟩
      · obtain ⟨metadata, accepted, duration, short⟩ := parseMetadata_described id parsed described
        refine ⟨metadata, accepted, duration, fun unmarked => ?_⟩
        rw [short]
        exact classifyShort_unmarked unmarked c.total
      · exact ⟨_, run_of_wp (wp_attemptDetectAndMarkShort parsed unclassified), decide_eq_true_iff⟩

/-- The digits of ASCII, and runs of them as long as an interpreter converts them at first. -/
def Sample.ascii : PollPlatform where
  parseDatetime _ := none
  digitValue c := if c.isDigit then some (c.toNat - '0'.toNat) else none
  maxStrDigits := some 4300

theorem Sample.ascii_reads : ReadsDigits Sample.ascii where
  digit _ h := if_pos h
  unit c hc := by
    simp only [List.mem_cons, List.not_mem_nil, or_false] at hc
    rcases hc with rfl | rfl | rfl <;> rfl

/-- An hour, two minutes and three seconds. -/
theorem decodes_time : Decodes Sample.ascii ⟨none, some 1, some 2, some 3⟩ "PT1H2M3S".toList := by
  refine (decodes_iff Sample.ascii Sample.ascii_reads _ (.inr (.inl rfl)) _ (by decide)).mpr
    ⟨rfl, fun n part => ?_⟩
  rcases part with ⟨⟨⟩⟩ | ⟨⟨⟩⟩ | ⟨⟨⟩⟩ <;> decide

/-- A day and two hours. -/
theorem days_undecoded : "P1DT2H".toList ∈ Duration.spellings ⟨some 1, some 2, none, none⟩
    ∧ parseIso8601DurationSeconds Sample.ascii "P1DT2H".toList = .ok none
    ∧ ¬ Decodes Sample.ascii ⟨some 1, some 2, none, none⟩ "P1DT2H".toList := by
  have unread : parseIso8601DurationSeconds Sample.ascii "P1DT2H".toList = .ok none := by rfl
  refine ⟨by decide, unread, fun decodes => ?_⟩
  cases unread.symm.trans decodes.parsed

end YTPipe.Polling
