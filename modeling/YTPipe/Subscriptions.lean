import YTPipe.Platform
import YTPipe.Table

/-!
# Subscription sync

`services/subscriptions.py` up to the rows of `channels` and `user_channels`.
-/

namespace YTPipe.Subscriptions

/-- A row whose `updated_at` the flush sets when it writes a change. -/
structure Channel where
  youtubeChannelId : String
  title : Option String
  uploadsPlaylistId : Option String
  updatedAt : Time
  deriving DecidableEq, Repr

structure UserChannel where
  userId : Int
  channelId : String
  isMonitored : Bool
  lastSeenVideoId : Option String
  baselineEstablishedAt : Option Time
  updatedAt : Time
  deriving DecidableEq, Repr

/-- `unique(user_id, channel_id)`. -/
def UserChannel.key (u : UserChannel) : Int × String := (u.userId, u.channelId)

structure Db where
  channels : Table String Channel Channel.youtubeChannelId
  userChannels : Table (Int × String) UserChannel UserChannel.key

structure SubscriptionRecord where
  channelId : String
  title : Option String
  deriving DecidableEq, Repr

/-- An item of `subscriptions().list`; a field that is missing is `none`. -/
structure SubscriptionItem where
  channelId : Option String
  title : Option String

structure SubscriptionPage where
  items : List SubscriptionItem
  nextPageToken : Option String

def SubscriptionItem.record (item : SubscriptionItem) : Option SubscriptionRecord :=
  match item.channelId with
  | some channelId => if channelId = "" then none else some ⟨channelId, item.title⟩
  | none => none

/-- The records of the pages up to the first without a next one; `none` where
a page is not answered. -/
def fetchSubscriptions : List SubscriptionPage → Option (List SubscriptionRecord)
  | [] => none
  | page :: pages =>
    let records := page.items.filterMap (·.record)
    if page.nextPageToken.getD "" = "" then some records
    else (fetchSubscriptions pages).map (records ++ ·)

structure ChannelDetails where
  title : Option String
  uploadsPlaylistId : Option String
  deriving DecidableEq, Repr

/-- An item of `channels().list`. -/
structure ChannelItem where
  id : Option String
  details : ChannelDetails

abbrev ChannelsById := String → Option ChannelDetails

def addItem (result : ChannelsById) (item : ChannelItem) : ChannelsById :=
  match item.id with
  | some channelId =>
    if channelId = "" then result
    else fun k => if k = channelId then some item.details else result k
  | none => result

/-- The values in lists of `size`; each takes one at least. -/
def chunkedFrom (size : Nat) : Nat → List String → List (List String)
  | 0, _ => []
  | fuel + 1, values =>
    if values = [] then [] else values.take size :: chunkedFrom size fuel (values.drop size)

def chunked (values : List String) (size : Nat) : List (List String) :=
  chunkedFrom size values.length values

/-- One request for each fifty distinct ids; `list` answers a request for the channels with some ids. -/
def fetchChannelsById (list : List String → List ChannelItem) (channelIds : List String) :
    ChannelsById :=
  (chunked channelIds.eraseDups 50).foldl
    (fun result chunk => (list chunk).foldl addItem result) (fun _ => none)

structure SubscriptionSyncResult where
  importedChannels : Nat
  createdChannels : Nat
  updatedChannels : Nat
  createdUserChannels : Nat
  updatedUserChannels : Nat
  deriving DecidableEq, Repr

/-- `details.get("title") or subscription.get("title")`. -/
def titleOf (channelsById : ChannelsById) (subscription : SubscriptionRecord) : Option String :=
  match (channelsById subscription.channelId).bind (·.title) with
  | some title => if title = "" then subscription.title else some title
  | none => subscription.title

def uploadsOf (channelsById : ChannelsById) (channelId : String) : Option String :=
  (channelsById channelId).bind (·.uploadsPlaylistId)

/-- The two assignments and the flush: a row that keeps its values is not written. -/
def Channel.assign (now : Time) (title uploadsPlaylistId : Option String) (channel : Channel) :
    Channel :=
  if channel.title = title ∧ channel.uploadsPlaylistId = uploadsPlaylistId then channel
  else { channel with title := title, uploadsPlaylistId := uploadsPlaylistId, updatedAt := now }

theorem Channel.assign_id (now : Time) (title uploads : Option String) (channel : Channel) :
    (channel.assign now title uploads).youtubeChannelId = channel.youtubeChannelId := by
  unfold Channel.assign
  split <;> rfl

section

variable (now : Time) (userId : Int) (channelsById : ChannelsById)

def upsertChannel (channels : Table String Channel Channel.youtubeChannelId)
    (subscription : SubscriptionRecord) : Table String Channel Channel.youtubeChannelId :=
  let title := titleOf channelsById subscription
  let uploads := uploadsOf channelsById subscription.channelId
  channels.upsert subscription.channelId ⟨subscription.channelId, title, uploads, now⟩
    (·.assign now title uploads) (fun r => r.assign_id now title uploads)

def newUserChannel (channelId : String) : UserChannel where
  userId := userId
  channelId := channelId
  isMonitored := false
  lastSeenVideoId := none
  baselineEstablishedAt := none
  updatedAt := now

def upsertUserChannel (userChannels : Table (Int × String) UserChannel UserChannel.key)
    (channelId : String) : Table (Int × String) UserChannel UserChannel.key :=
  userChannels.upsert (userId, channelId) (newUserChannel now userId channelId) id (fun _ => rfl)

def upsertSubscription (state : Db × SubscriptionSyncResult) (subscription : SubscriptionRecord) :
    Db × SubscriptionSyncResult :=
  let (db, result) := state
  let channelId := subscription.channelId
  let newChannel := (db.channels.get channelId).isNone
  let newUserChannel := (db.userChannels.get (userId, channelId)).isNone
  ({ channels := upsertChannel now channelsById db.channels subscription
     userChannels := upsertUserChannel now userId db.userChannels channelId },
   { result with
     createdChannels := result.createdChannels + newChannel.toNat
     updatedChannels := result.updatedChannels + (!newChannel).toNat
     createdUserChannels := result.createdUserChannels + newUserChannel.toNat
     updatedUserChannels := result.updatedUserChannels + (!newUserChannel).toNat })

def upsertSubscriptionState (db : Db) (subscriptions : List SubscriptionRecord) :
    Db × SubscriptionSyncResult :=
  subscriptions.foldl (upsertSubscription now userId channelsById)
    (db, ⟨subscriptions.length, 0, 0, 0, 0⟩)

end

/-- `sync_subscriptions`; `none` where a page of subscriptions is not answered. -/
def syncSubscriptions (now : Time) (userId : Int) (pages : List SubscriptionPage)
    (list : List String → List ChannelItem) (db : Db) : Option (Db × SubscriptionSyncResult) :=
  (fetchSubscriptions pages).map fun subscriptions =>
    upsertSubscriptionState now userId
      (fetchChannelsById list (subscriptions.map (·.channelId))) db subscriptions

/-! Which channels have details. -/

theorem chunkedFrom_flatten {size fuel : Nat} {values : List String} (positive : 0 < size)
    (enough : values.length ≤ fuel) : (chunkedFrom size fuel values).flatten = values := by
  induction fuel generalizing values with
  | zero => exact (List.length_eq_zero_iff.mp (Nat.le_zero.mp enough)).symm
  | succ fuel ih =>
    unfold chunkedFrom
    split
    · next none_ => rw [none_]; rfl
    · next some_ =>
      have pos := List.length_pos_iff.mpr some_
      have left : (values.drop size).length ≤ fuel := by
        rw [List.length_drop]
        omega
      rw [List.flatten_cons, ih left, List.take_append_drop]

/-- Every id is asked for in one request. -/
theorem chunked_flatten (values : List String) : (chunked values 50).flatten = values :=
  chunkedFrom_flatten (by decide) (Nat.le_refl _)

/-- No request asks for more than a page. -/
theorem length_le_of_mem_chunkedFrom {size fuel : Nat} {values chunk : List String}
    (h : chunk ∈ chunkedFrom size fuel values) : chunk.length ≤ size := by
  induction fuel generalizing values with
  | zero => cases h
  | succ fuel ih =>
    unfold chunkedFrom at h
    split at h
    · cases h
    · rcases List.mem_cons.mp h with rfl | h
      · exact List.length_take_le ..
      · exact ih h

theorem addItem_isSome (result : ChannelsById) (item : ChannelItem) (k : String) :
    (addItem result item k).isSome = true ↔
      (result k).isSome = true ∨ item.id = some k ∧ k ≠ "" := by
  unfold addItem
  cases item.id with
  | none => simp
  | some channelId =>
    by_cases empty : channelId = ""
    · simp only [empty, if_true]
      grind
    · simp only [empty, if_false]
      grind

theorem foldl_addItem_isSome (items : List ChannelItem) (result : ChannelsById) (k : String) :
    (items.foldl addItem result k).isSome = true ↔
      (result k).isSome = true ∨ ∃ item ∈ items, item.id = some k ∧ k ≠ "" := by
  induction items generalizing result with
  | nil => simp
  | cons item items ih =>
    rw [List.foldl_cons, ih, addItem_isSome]
    simp only [List.mem_cons, exists_eq_or_imp, or_assoc]

/-- A channel has details when an answer to one of the requests names it. -/
theorem fetchChannelsById_isSome (list : List String → List ChannelItem)
    (channelIds : List String) (k : String) :
    (fetchChannelsById list channelIds k).isSome = true ↔
      ∃ chunk ∈ chunked channelIds.eraseDups 50, ∃ item ∈ list chunk, item.id = some k ∧ k ≠ "" := by
  have folded : ∀ (chunks : List (List String)) (result : ChannelsById),
      (chunks.foldl (fun result chunk => (list chunk).foldl addItem result) result k).isSome = true ↔
        (result k).isSome = true ∨
          ∃ chunk ∈ chunks, ∃ item ∈ list chunk, item.id = some k ∧ k ≠ "" := by
    intro chunks
    induction chunks with
    | nil => simp
    | cons chunk chunks ih =>
      intro result
      rw [List.foldl_cons, ih, foldl_addItem_isSome]
      simp only [List.mem_cons, exists_eq_or_imp, or_assoc]
  unfold fetchChannelsById
  rw [folded]
  simp

/-! One row through a sync. -/

section

variable {now : Time} {userId : Int} {channelsById : ChannelsById}
  {subscriptions : List SubscriptionRecord}

/-- What a subscription makes of its channel's row, of `none` a new one. -/
def touch (now : Time) (channelsById : ChannelsById) (row : Option Channel)
    (subscription : SubscriptionRecord) : Option Channel :=
  let title := titleOf channelsById subscription
  let uploads := uploadsOf channelsById subscription.channelId
  some ((row.map (·.assign now title uploads)).getD ⟨subscription.channelId, title, uploads, now⟩)

theorem get_upsertChannel (channels : Table String Channel Channel.youtubeChannelId)
    (s : SubscriptionRecord) (k : String) :
    (upsertChannel now channelsById channels s).get k
      = if s.channelId = k then touch now channelsById (channels.get k) s else channels.get k := by
  dsimp only [upsertChannel]
  rw [Table.get_upsert]
  · by_cases here : s.channelId = k
    · rw [if_pos here, if_pos here.symm, ← here]
      rfl
    · rw [if_neg here, if_neg (Ne.symm here)]
  · rfl

theorem get_upsertUserChannel (userChannels : Table (Int × String) UserChannel UserChannel.key)
    (channelId : String) (key : Int × String) :
    (upsertUserChannel now userId userChannels channelId).get key
      = if key = (userId, channelId)
        then some ((userChannels.get key).getD (newUserChannel now userId channelId))
        else userChannels.get key := by
  unfold upsertUserChannel
  rw [Table.get_upsert]
  · split
    · next here =>
      rw [here, Option.map_id]
      rfl
    · rfl
  · rfl

/-- A channel's row is what its own subscriptions make of it, one after the other. -/
theorem get_channels (db : Db) (result : SubscriptionSyncResult) (k : String) :
    (subscriptions.foldl (upsertSubscription now userId channelsById) (db, result)).1.channels.get k
      = (subscriptions.filter (·.channelId = k)).foldl (touch now channelsById)
        (db.channels.get k) := by
  induction subscriptions generalizing db result with
  | nil => rfl
  | cons s rest ih =>
    rw [List.foldl_cons, ih]
    simp only [upsertSubscription, get_upsertChannel]
    by_cases here : s.channelId = k
    · rw [if_pos here, List.filter_cons_of_pos (by simpa using here), List.foldl_cons]
    · rw [if_neg here, List.filter_cons_of_neg (by simpa using here)]

/-- A user's channel keeps its row, or has a new one when it is subscribed to. -/
theorem get_userChannels (db : Db) (result : SubscriptionSyncResult) (key : Int × String) :
    (subscriptions.foldl (upsertSubscription now userId channelsById)
        (db, result)).1.userChannels.get key
      = if key.1 = userId ∧ key.2 ∈ subscriptions.map (·.channelId)
        then some ((db.userChannels.get key).getD (newUserChannel now userId key.2))
        else db.userChannels.get key := by
  induction subscriptions generalizing db result with
  | nil => simp
  | cons s rest ih =>
    rw [List.foldl_cons, ih]
    simp only [upsertSubscription, get_upsertUserChannel, List.map_cons, List.mem_cons]
    by_cases here : key = (userId, s.channelId)
    · subst here
      simp
    · rw [if_neg here]
      have apart : ¬ (key.1 = userId ∧ key.2 = s.channelId) := fun same =>
        here (Prod.ext same.1 same.2)
      grind

/-! What a run of subscriptions makes of a row. -/

theorem touch_row (now : Time) (channelsById : ChannelsById) (row : Option Channel)
    (s : SubscriptionRecord) : ∃ c, touch now channelsById row s = some c ∧
      c.title = titleOf channelsById s ∧
      c.uploadsPlaylistId = uploadsOf channelsById s.channelId := by
  cases row with
  | none => exact ⟨_, rfl, rfl, rfl⟩
  | some c =>
    refine ⟨_, rfl, ?_⟩
    simp only [Option.map_some, Option.getD_some, Channel.assign]
    split
    · assumption
    · exact ⟨rfl, rfl⟩

theorem touch_same {c : Channel} {s : SubscriptionRecord} (title : titleOf channelsById s = c.title)
    (uploads : uploadsOf channelsById s.channelId = c.uploadsPlaylistId) :
    touch now channelsById (some c) s = some c := by
  simp [touch, Channel.assign, title, uploads]

theorem touch_stamps {c : Channel} {s : SubscriptionRecord} (written : c.updatedAt = now ∨
    ¬ (titleOf channelsById s = c.title ∧
      uploadsOf channelsById s.channelId = c.uploadsPlaylistId)) :
    ∃ c', touch now channelsById (some c) s = some c' ∧ c'.updatedAt = now := by
  refine ⟨_, rfl, ?_⟩
  simp only [Option.map_some, Option.getD_some, Channel.assign]
  split
  · next same =>
    rcases written with stamped | changed
    · exact stamped
    · exact absurd ⟨same.1.symm, same.2.symm⟩ changed
  · rfl

/-- After some subscriptions to one channel its row has what the last of them says. -/
theorem foldl_touch (now : Time) (channelsById : ChannelsById) {k : String} (some_ : subscriptions ≠ [])
    (of : ∀ s ∈ subscriptions, s.channelId = k) (row : Option Channel) :
    ∃ c, subscriptions.foldl (touch now channelsById) row = some c ∧
      (∃ s ∈ subscriptions, c.title = titleOf channelsById s) ∧
      c.uploadsPlaylistId = uploadsOf channelsById k := by
  obtain ⟨front, s, rfl⟩ : ∃ front s, subscriptions = front ++ [s] :=
    ⟨_, _, (List.dropLast_concat_getLast some_).symm⟩
  rw [List.foldl_append, List.foldl_cons, List.foldl_nil]
  have mem : s ∈ front ++ [s] := List.mem_append_right _ List.mem_cons_self
  obtain ⟨c, made, title, uploads⟩ := touch_row now channelsById
    (front.foldl (touch now channelsById) row) s
  exact ⟨c, made, ⟨s, mem, title⟩, by rw [uploads, of s mem]⟩

theorem foldl_touch_same {c : Channel} (same : ∀ s ∈ subscriptions,
    titleOf channelsById s = c.title ∧ uploadsOf channelsById s.channelId = c.uploadsPlaylistId) :
    subscriptions.foldl (touch now channelsById) (some c) = some c := by
  induction subscriptions with
  | nil => rfl
  | cons s rest ih =>
    obtain ⟨title, uploads⟩ := same s List.mem_cons_self
    rw [List.foldl_cons, touch_same title uploads]
    exact ih fun s mem => same s (List.mem_cons_of_mem _ mem)

/-- A row one of the subscriptions changes is written, and stays written. -/
theorem foldl_touch_stamps (now : Time) (channelsById : ChannelsById) {c : Channel}
    (written : c.updatedAt = now ∨ ∃ s ∈ subscriptions, titleOf channelsById s ≠ c.title) :
    ∃ c', subscriptions.foldl (touch now channelsById) (some c) = some c' ∧ c'.updatedAt = now := by
  induction subscriptions generalizing c with
  | nil =>
    rcases written with stamped | ⟨s, mem, _⟩
    · exact ⟨c, rfl, stamped⟩
    · cases mem
  | cons s rest ih =>
    rw [List.foldl_cons]
    by_cases same : titleOf channelsById s = c.title ∧
        uploadsOf channelsById s.channelId = c.uploadsPlaylistId
    · rw [touch_same same.1 same.2]
      apply ih
      rcases written with stamped | ⟨s', mem, changed⟩
      · exact .inl stamped
      · rcases List.mem_cons.mp mem with rfl | mem
        · exact absurd same.1 changed
        · exact .inr ⟨s', mem, changed⟩
    · obtain ⟨c', made, stamped⟩ := touch_stamps (.inr same)
      rw [made]
      exact ih (.inl stamped)

end

/-! What a sync keeps. -/

section

variable (now : Time) (userId : Int) (channelsById : ChannelsById) (db : Db)
  (subscriptions : List SubscriptionRecord)

/-- The rows a sync leaves. -/
def synced : Db := (upsertSubscriptionState now userId channelsById db subscriptions).1

def Subscribed (k : String) : Prop := ∃ s ∈ subscriptions, s.channelId = k

/-- A sync adds a row for each subscribed channel, knows nothing else to write
and writes nothing twice. -/
structure Preserves : Prop where
  channels : ∀ k, ((synced now userId channelsById db subscriptions).channels.get k).isSome = true ↔
    (db.channels.get k).isSome = true ∨ Subscribed subscriptions k
  userChannels : ∀ key,
    ((synced now userId channelsById db subscriptions).userChannels.get key).isSome = true ↔
      (db.userChannels.get key).isSome = true ∨ key.1 = userId ∧ Subscribed subscriptions key.2
  settled : ∀ later,
    let once := synced now userId channelsById db subscriptions
    let again := synced later userId channelsById once subscriptions
    (∀ k, again.channels.get k = once.channels.get k) ∧
      ∀ key, again.userChannels.get key = once.userChannels.get key
  kept : ∀ key row, db.userChannels.get key = some row →
    (synced now userId channelsById db subscriptions).userChannels.get key = some row
  unmonitored : ∀ key row, db.userChannels.get key = none →
    (synced now userId channelsById db subscriptions).userChannels.get key = some row →
      row.isMonitored = false
  known : ∀ k row, db.channels.get k = some row → channelsById k = none →
    ∃ row', (synced now userId channelsById db subscriptions).channels.get k = some row' ∧
      row'.uploadsPlaylistId = row.uploadsPlaylistId

/-- Every subscribed channel whose uploads are known has details, and entries
for one channel have one title. -/
def Harmless : Prop :=
  (∀ s ∈ subscriptions, ∀ row, db.channels.get s.channelId = some row →
    row.uploadsPlaylistId ≠ none → channelsById s.channelId ≠ none) ∧
  ∀ s ∈ subscriptions, ∀ s' ∈ subscriptions, s.channelId = s'.channelId →
    titleOf channelsById s = titleOf channelsById s'

end

section

variable {now : Time} {userId : Int} {channelsById : ChannelsById} {db : Db}
  {subscriptions : List SubscriptionRecord}

theorem synced_channel (k : String) :
    (synced now userId channelsById db subscriptions).channels.get k
      = (subscriptions.filter (·.channelId = k)).foldl (touch now channelsById)
        (db.channels.get k) := get_channels db _ k

theorem synced_userChannel (key : Int × String) :
    (synced now userId channelsById db subscriptions).userChannels.get key
      = if key.1 = userId ∧ key.2 ∈ subscriptions.map (·.channelId)
        then some ((db.userChannels.get key).getD (newUserChannel now userId key.2))
        else db.userChannels.get key := get_userChannels db _ key

theorem subscribed_iff {k : String} :
    Subscribed subscriptions k ↔ k ∈ subscriptions.map (·.channelId) := List.mem_map.symm

theorem mem_own {k : String} {s : SubscriptionRecord} :
    s ∈ subscriptions.filter (·.channelId = k) ↔ s ∈ subscriptions ∧ s.channelId = k := by
  rw [List.mem_filter, decide_eq_true_eq]

theorem own_eq_nil {k : String} (not_ : ¬ Subscribed subscriptions k) :
    subscriptions.filter (·.channelId = k) = [] := by
  rw [List.filter_eq_nil_iff]
  intro s mem same
  exact not_ ⟨s, mem, by simpa using same⟩

/-- The row of a subscribed channel after a sync. -/
theorem synced_subscribed (now : Time) (userId : Int) (channelsById : ChannelsById) (db : Db)
    {k : String} (subscribed : Subscribed subscriptions k) :
    ∃ c, (synced now userId channelsById db subscriptions).channels.get k = some c ∧
      (∃ s ∈ subscriptions, s.channelId = k ∧ c.title = titleOf channelsById s) ∧
      c.uploadsPlaylistId = uploadsOf channelsById k := by
  rw [synced_channel]
  obtain ⟨s, mem, same⟩ := subscribed
  have some_ : subscriptions.filter (·.channelId = k) ≠ [] :=
    List.ne_nil_of_mem (mem_own.mpr ⟨mem, same⟩)
  obtain ⟨c, made, ⟨s', mem', title⟩, uploads⟩ := foldl_touch now channelsById some_
    (fun s mem => (mem_own.mp mem).2) (db.channels.get k)
  exact ⟨c, made, ⟨s', (mem_own.mp mem').1, (mem_own.mp mem').2, title⟩, uploads⟩

theorem synced_other {k : String} (not_ : ¬ Subscribed subscriptions k) :
    (synced now userId channelsById db subscriptions).channels.get k = db.channels.get k := by
  rw [synced_channel, own_eq_nil not_]
  rfl

/-- A row without uploads to lose, or with details that name them, stays known. -/
theorem known_iff : (∀ k row, db.channels.get k = some row → channelsById k = none →
      ∃ row', (synced now userId channelsById db subscriptions).channels.get k = some row' ∧
        row'.uploadsPlaylistId = row.uploadsPlaylistId) ↔
    ∀ s ∈ subscriptions, ∀ row, db.channels.get s.channelId = some row →
      row.uploadsPlaylistId ≠ none → channelsById s.channelId ≠ none := by
  constructor
  · intro known s mem row found uploads missing
    obtain ⟨row', found', same⟩ := known s.channelId row found missing
    obtain ⟨c, made, _, lost⟩ :=
      synced_subscribed now userId channelsById db ⟨s, mem, rfl⟩
    rw [made] at found'
    cases found'
    rw [← same, lost, uploadsOf, missing] at uploads
    exact uploads rfl
  · intro harmless k row found missing
    by_cases subscribed : Subscribed subscriptions k
    · obtain ⟨c, made, _, uploads⟩ := synced_subscribed now userId channelsById db subscribed
      refine ⟨c, made, ?_⟩
      obtain ⟨s, mem, rfl⟩ := subscribed
      rw [uploads, uploadsOf, missing]
      apply Classical.byContradiction
      intro lost
      exact harmless s mem row found (fun none_ => lost none_.symm) missing
    · exact ⟨row, by rw [synced_other subscribed, found], rfl⟩

/-- A second sync writes nothing where the entries for a channel agree. -/
theorem settled_iff : (∀ later k,
      (synced later userId channelsById (synced now userId channelsById db subscriptions)
          subscriptions).channels.get k
        = (synced now userId channelsById db subscriptions).channels.get k) ↔
    ∀ s ∈ subscriptions, ∀ s' ∈ subscriptions, s.channelId = s'.channelId →
      titleOf channelsById s = titleOf channelsById s' := by
  constructor
  · intro settled
    -- the row of a channel has the title of each of its entries
    have agree : ∀ s ∈ subscriptions, ∀ c,
        (synced now userId channelsById db subscriptions).channels.get s.channelId = some c →
          titleOf channelsById s = c.title := by
      intro s mem c found
      apply Classical.byContradiction
      intro differ
      have again := settled (c.updatedAt + 1) s.channelId
      rw [synced_channel, found] at again
      obtain ⟨c', made, stamped⟩ := foldl_touch_stamps (c.updatedAt + 1) channelsById
        (.inr ⟨s, mem_own.mpr ⟨mem, rfl⟩, differ⟩)
      rw [made] at again
      cases again
      exact Int.ne_of_lt (Int.lt_add_one_of_le (Int.le_refl c.updatedAt)) stamped
    intro s mem s' mem' same
    obtain ⟨c, found, _⟩ :=
      synced_subscribed now userId channelsById db ⟨s, mem, rfl⟩
    rw [agree s mem c found, agree s' mem' c (same ▸ found)]
  · intro harmless later k
    by_cases subscribed : Subscribed subscriptions k
    · obtain ⟨c, found, ⟨s, mem, rfl, title⟩, uploads⟩ :=
        synced_subscribed now userId channelsById db subscribed
      rw [synced_channel, found]
      apply foldl_touch_same
      intro s' mem'
      obtain ⟨mem', same⟩ := mem_own.mp mem'
      exact ⟨by rw [title, harmless s' mem' s mem same], by rw [uploads, same]⟩
    · rw [synced_other subscribed]

theorem preserves_of_harmless (harmless : Harmless channelsById db subscriptions) :
    Preserves now userId channelsById db subscriptions := by
  refine ⟨?_, ?_, fun later => ⟨settled_iff.mpr harmless.2 later, ?_⟩, ?_, ?_,
    known_iff.mpr harmless.1⟩
  · intro k
    by_cases subscribed : Subscribed subscriptions k
    · obtain ⟨c, made, _⟩ := synced_subscribed now userId channelsById db subscribed
      simp [made, subscribed]
    · simp [synced_other subscribed, subscribed]
  · intro key
    rw [synced_userChannel, subscribed_iff]
    split
    · next here => simp [here]
    · next here => exact ⟨.inl, fun added => added.resolve_right here⟩
  · intro key
    simp only [synced_userChannel]
    split <;> simp
  · intro key row found
    rw [synced_userChannel, found]
    split <;> rfl
  · intro key row fresh found
    rw [synced_userChannel, fresh] at found
    split at found
    · cases found
      rfl
    · cases found

/-! A sync with its answers. -/

theorem record_ne_empty {item : SubscriptionItem} {record : SubscriptionRecord}
    (h : item.record = some record) : record.channelId ≠ "" := by
  unfold SubscriptionItem.record at h
  cases named : item.channelId with
  | none =>
    rw [named] at h
    cases h
  | some channelId =>
    rw [named] at h
    dsimp only at h
    split at h
    · cases h
    · next some_ =>
      cases h
      exact some_

theorem fetched_ne_empty {pages : List SubscriptionPage}
    (fetched : fetchSubscriptions pages = some subscriptions) :
    ∀ s ∈ subscriptions, s.channelId ≠ "" := by
  induction pages generalizing subscriptions with
  | nil => cases fetched
  | cons page pages ih =>
    have own : ∀ s ∈ page.items.filterMap (·.record), s.channelId ≠ "" := by
      intro s mem
      obtain ⟨item, -, record⟩ := List.mem_filterMap.mp mem
      exact record_ne_empty record
    unfold fetchSubscriptions at fetched
    dsimp only at fetched
    split at fetched
    · cases fetched
      exact own
    · obtain ⟨rest, later, rfl⟩ := Option.map_eq_some_iff.mp fetched
      intro s mem
      exact (List.mem_append.mp mem).elim (own s) (ih later s)

/-- A request that is not over fifty ids is answered with each of them. -/
def Complete (list : List String → List ChannelItem) : Prop :=
  ∀ chunk : List String, chunk.length ≤ 50 → ∀ k ∈ chunk, ∃ item ∈ list chunk, item.id = some k

/-- With such answers there are details of every channel that is asked for. -/
theorem details_of_complete {list : List String → List ChannelItem} (complete : Complete list)
    {channelIds : List String} {k : String} (asked : k ∈ channelIds) (valid : k ≠ "") :
    fetchChannelsById list channelIds k ≠ none := by
  rw [← Option.isSome_iff_ne_none, fetchChannelsById_isSome]
  have distinct : k ∈ (chunked channelIds.eraseDups 50).flatten := by
    rw [chunked_flatten]
    exact List.mem_eraseDups.mpr asked
  obtain ⟨chunk, mem, here⟩ := List.mem_flatten.mp distinct
  obtain ⟨item, answered, named⟩ := complete chunk (length_le_of_mem_chunkedFrom mem) k here
  exact ⟨chunk, mem, item, answered, named, valid⟩

/-- A sync whose requests are answered in full keeps what it does not know, as
long as no two entries name one channel in two ways. -/
theorem syncSubscriptions_preserves {pages : List SubscriptionPage}
    {list : List String → List ChannelItem} (complete : Complete list)
    (fetched : fetchSubscriptions pages = some subscriptions)
    (agree : ∀ s ∈ subscriptions, ∀ s' ∈ subscriptions, s.channelId = s'.channelId →
      titleOf (fetchChannelsById list (subscriptions.map (·.channelId))) s
        = titleOf (fetchChannelsById list (subscriptions.map (·.channelId))) s') :
    let channelsById := fetchChannelsById list (subscriptions.map (·.channelId))
    (syncSubscriptions now userId pages list db).map Prod.fst
        = some (synced now userId channelsById db subscriptions)
      ∧ Preserves now userId channelsById db subscriptions := by
  intro channelsById
  constructor
  · rw [syncSubscriptions, fetched]
    rfl
  · refine preserves_of_harmless ⟨fun s mem _ _ _ => ?_, agree⟩
    exact details_of_complete complete (List.mem_map_of_mem mem) (fetched_ne_empty fetched s mem)

/-- A sync adds what is missing and keeps the rest, unless it is answered
without the details of a channel it knows or names one channel twice in two ways. -/
theorem preserves_iff : Preserves now userId channelsById db subscriptions ↔
    Harmless channelsById db subscriptions := by
  constructor
  · intro preserves
    exact ⟨known_iff.mp preserves.known, settled_iff.mp fun later => (preserves.settled later).1⟩
  · exact preserves_of_harmless

end

/-- A channel that is known and monitored. -/
def Sample.known : Db where
  channels := ⟨[⟨"UC1", some "A", some "UU1", 0⟩], by decide⟩
  userChannels := ⟨[⟨1, "UC1", true, some "v", some 0, 0⟩], by decide⟩

/-- The channels response leaves out the channel. -/
theorem not_preserves_unanswered :
    ¬ Preserves 5 1 (fun _ => none) Sample.known [⟨"UC1", some "A"⟩] := by
  intro preserves
  obtain ⟨row, found, same⟩ := preserves.known "UC1" ⟨"UC1", some "A", some "UU1", 0⟩ rfl rfl
  have lost : (synced 5 1 (fun _ => none) Sample.known [⟨"UC1", some "A"⟩]).channels.get "UC1"
      = some ⟨"UC1", some "A", none, 5⟩ := by decide
  rw [lost] at found
  cases found
  cases same

end YTPipe.Subscriptions
