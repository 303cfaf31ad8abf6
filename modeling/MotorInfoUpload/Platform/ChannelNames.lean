import MotorInfoUpload.Platform.LoginFrame

namespace MotorInfoUpload

open Machine

def Constant.maxUploadChannelNum : Nat := 100

/-- The channel numbers of the loop in `signal_handler`. -/
def addedChannels (uploadChannelsCount : Nat) : List Nat :=
  let UploadChannelCount :=
    if uploadChannelsCount > Constant.maxUploadChannelNum then Constant.maxUploadChannelNum
    else uploadChannelsCount
  List.range' 1 (UploadChannelCount - 1)

/-- An uploader, if its constructor neither throws nor writes beyond its structures. -/
def Uploader.make (config : LoginConfig) (no : Nat) (fresh : UploaderData) : Option UploaderData :=
  match Uploader.construct config no fresh with
  | .ok made => made
  | .error _ => none

/-- The pool after a number of signals, each given by the memory of the uploaders it adds. -/
def uploaderPool (config : LoginConfig) (uploadChannelsCount : Nat) (fresh : UploaderData) :
    List (Nat → UploaderData) → Option (List UploaderData)
  | [] => do
    let uploader ← Uploader.make config 0 fresh
    return [uploader]
  | memory :: signals => do
    let pool ← uploaderPool config uploadChannelsCount fresh signals
    let added ← (addedChannels uploadChannelsCount).mapM fun i => Uploader.make config i (memory i)
    return pool ++ added

/-- The channel numbers of the pool. -/
def poolChannels (uploadChannelsCount : Nat) : Nat → List Nat
  | 0 => [0]
  | signals + 1 => poolChannels uploadChannelsCount signals ++ addedChannels uploadChannelsCount

/-- The field of the user name, which every login frame carries. -/
def UploaderData.username (data : UploaderData) : List UInt8 := data.loginData.field 32 12

section Names

variable {config : LoginConfig} {no : Nat} {fresh data : UploaderData}

/-- The user name of a channel, as far as the platform id does not reach into its field. -/
def LoginConfig.usernameOf (config : LoginConfig) (no : Nat) : List UInt8 :=
  config.paltformId.drop 28 ++
    (padded 12 (channelName config.publicServerUserName no)).drop (config.paltformId.length - 28)

theorem make_username (made : Uploader.make config no fresh = some data) :
    data.username = config.usernameOf no := by
  unfold Uploader.make at made
  split at made
  · rename_i accepted
    subst made
    obtain ⟨short, legal, filling⟩ := construct_accepts accepted
    obtain ⟨_, _, _, username, _, _⟩ :=
      LoginDataForward.credentials_filled no short legal fresh.loginData
    simp only [UploaderData.fill, Option.bind_eq_bind, Option.bind_eq_some_iff, Packed.copy_some_iff,
      Option.pure_def, Option.some.injEq] at filling
    obtain ⟨_, ⟨loginFits, rfl⟩, _, ⟨logoutFits, rfl⟩, rfl⟩ := filling
    change 4 + config.paltformId.length ≤ 33 at logoutFits
    simp only [UploaderData.username, LoginConfig.usernameOf]
    rw [Packed.field_put_apart (.inr (by simp)), Packed.field_put_reaching (by decide) (by omega),
      Packed.field_put_apart (.inr (by simp)), username, Nat.add_comm 4, Nat.add_sub_add_right]
  · cases made

private theorem added_usernames {memory : Nat → UploaderData} {channels : List Nat}
    {added : List UploaderData}
    (made : (channels.mapM fun i => Uploader.make config i (memory i)) = some added) :
    added.map UploaderData.username = channels.map config.usernameOf := by
  induction channels generalizing added with
  | nil =>
    cases made
    rfl
  | cons no channels ih =>
    simp only [List.mapM_cons, Option.bind_eq_bind, Option.bind_eq_some_iff, Option.pure_def,
      Option.some.injEq] at made
    obtain ⟨first, madeFirst, others, madeOthers, rfl⟩ := made
    simp [make_username madeFirst, ih madeOthers]

theorem pool_usernames {uploadChannelsCount : Nat} {signals : List (Nat → UploaderData)}
    {pool : List UploaderData}
    (built : uploaderPool config uploadChannelsCount fresh signals = some pool) :
    pool.map UploaderData.username =
      (poolChannels uploadChannelsCount signals.length).map config.usernameOf := by
  induction signals generalizing pool with
  | nil =>
    simp only [uploaderPool, Option.bind_eq_bind, Option.bind_eq_some_iff, Option.pure_def,
      Option.some.injEq] at built
    obtain ⟨uploader, made, rfl⟩ := built
    simp [make_username made, poolChannels]
  | cons memory signals ih =>
    simp only [uploaderPool, Option.bind_eq_bind, Option.bind_eq_some_iff, Option.pure_def,
      Option.some.injEq] at built
    obtain ⟨earlier, builtEarlier, added, made, rfl⟩ := built
    rw [List.length_cons, poolChannels, List.map_append, List.map_append, ih builtEarlier,
      added_usernames made]

/-- How many characters of the suffix are still to be seen. -/
def LoginConfig.onesShown (config : LoginConfig) (no : Nat) : Nat :=
  min no (12 - config.publicServerUserName.length) -
    (config.paltformId.length - 28 - config.publicServerUserName.length)

theorem usernameOf_eq : config.usernameOf no = config.paltformId.drop 28 ++
    (config.publicServerUserName.drop (config.paltformId.length - 28) ++
      (List.replicate (config.onesShown no) 49 ++ List.replicate
        (12 - (config.publicServerUserName.length +
          (config.paltformId.length - 28 - config.publicServerUserName.length) +
            config.onesShown no)) 0)) := by
  have zeros (name shown hidden : Nat) :
      12 - (name + shown) - (hidden - shown) = 12 - (name + hidden + (shown - hidden)) := by omega
  simp [LoginConfig.usernameOf, padded, channelName, LoginConfig.onesShown, List.drop_append, zeros]

theorem usernameOf_same_iff {other : Nat} :
    config.usernameOf no = config.usernameOf other ↔ config.onesShown no = config.onesShown other := by
  constructor
  · intro same
    have counted := congrArg (List.count 49) same
    simpa [usernameOf_eq, List.count_replicate] using counted
  · intro same
    rw [usernameOf_eq, usernameOf_eq, same]

theorem addedChannels_eq (uploadChannelsCount : Nat) :
    addedChannels uploadChannelsCount = List.range' 1 (min uploadChannelsCount 100 - 1) := by
  have bounded : (if uploadChannelsCount > Constant.maxUploadChannelNum then Constant.maxUploadChannelNum
      else uploadChannelsCount) = min uploadChannelsCount 100 := by
    unfold Constant.maxUploadChannelNum
    split <;> omega
  simp only [addedChannels, bounded]

/-- The channels of one signal show different numbers exactly if the suffix of the last one
fits into the field, and the first character of a suffix is not hidden. -/
theorem onesShown_distinct_iff {channels : Nat} (several : 2 ≤ channels) :
    ((List.range channels).map config.onesShown).Nodup ↔
      channels - 1 ≤ 12 - config.publicServerUserName.length ∧
        config.paltformId.length ≤ 28 + config.publicServerUserName.length := by
  have visible : config.paltformId.length ≤ 28 + config.publicServerUserName.length ↔
      config.paltformId.length - 28 - config.publicServerUserName.length = 0 := by omega
  rw [List.nodup_map_iff_inj_on List.nodup_range, visible]
  simp only [List.mem_range, LoginConfig.onesShown]
  generalize config.paltformId.length - 28 - config.publicServerUserName.length = hidden
  generalize 12 - config.publicServerUserName.length = room
  constructor
  · intro distinct
    have first := distinct 0 (by omega) 1 (by omega)
    have last := distinct (channels - 2) (by omega) (channels - 1) (by omega)
    omega
  · intro ⟨fits, visible⟩ one _ other _ same
    omega

theorem poolChannels_one (uploadChannelsCount : Nat) (several : 2 ≤ min uploadChannelsCount 100) :
    poolChannels uploadChannelsCount 1 = List.range (min uploadChannelsCount 100) := by
  obtain ⟨added, same⟩ := Nat.exists_eq_add_of_le' (Nat.le_of_succ_le several)
  rw [poolChannels, poolChannels, addedChannels_eq, same, Nat.add_sub_cancel, List.range_eq_range',
    List.range'_succ]
  rfl

theorem poolChannels_few (uploadChannelsCount signals : Nat) (few : min uploadChannelsCount 100 ≤ 1) :
    poolChannels uploadChannelsCount signals = [0] := by
  have none : min uploadChannelsCount 100 - 1 = 0 := Nat.sub_eq_zero_of_le few
  induction signals with
  | zero => rfl
  | succ signals ih => simp [poolChannels, ih, addedChannels_eq, none]

def Distinguished (config : LoginConfig) (uploadChannelsCount signals : Nat) : Prop :=
  min uploadChannelsCount 100 ≤ 1 ∨ signals = 0 ∨
    signals = 1 ∧ min uploadChannelsCount 100 - 1 ≤ 12 - config.publicServerUserName.length ∧
      config.paltformId.length ≤ 28 + config.publicServerUserName.length

instance (config : LoginConfig) (uploadChannelsCount signals : Nat) :
    Decidable (Distinguished config uploadChannelsCount signals) :=
  inferInstanceAs (Decidable (_ ∨ _ ∨ _ ∧ _ ∧ _))

theorem poolChannels_distinct_iff (uploadChannelsCount signals : Nat) :
    ((poolChannels uploadChannelsCount signals).map config.onesShown).Nodup ↔
      Distinguished config uploadChannelsCount signals := by
  unfold Distinguished
  by_cases few : min uploadChannelsCount 100 ≤ 1
  · simp [poolChannels_few uploadChannelsCount signals few, few]
  · have several : 2 ≤ min uploadChannelsCount 100 := by omega
    match signals with
    | 0 => simp [poolChannels]
    | 1 => simp [poolChannels_one _ several, onesShown_distinct_iff several, few]
    | signals + 2 =>
      -- channel 1 has been added twice
      have added : 1 ∈ addedChannels uploadChannelsCount := by
        rw [addedChannels_eq, List.mem_range'_1]
        omega
      have twice : ¬ ((poolChannels uploadChannelsCount (signals + 2)).map config.onesShown).Nodup := by
        intro distinct
        simp only [poolChannels, List.map_append] at distinct
        have apart := List.disjoint_of_nodup_append distinct
        have member := List.mem_map_of_mem (f := config.onesShown) added
        exact apart (List.mem_append_right _ member) member
      simp [twice, few]

theorem updateLoginData_username (serialNumber : UInt16) (time : LocalTime) :
    (data.updateLoginData serialNumber time).username = data.username := by
  simp only [UploaderData.username, UploaderData.updateLoginData]
  rw [Packed.field_put_apart (.inr (by simp)), Packed.field_put_apart (.inr (by simp))]

section Frames

variable [ByteBufferApi]

theorem sendPacked_put {size : Nat} {memory after : Packed UInt8 size} {room : 3 < size}
    {frame : List UInt8} (sent : sendPacked memory room = .ok (after, frame)) :
    frame = after.toList ∧ ∃ checkCode fits, after = memory.put (size - 1) [checkCode] fits := by
  unfold sendPacked at sent
  cases computed : Util.generateBlockCheckCharacterOf (wrapped memory) 2 (size - 3) with
  | error exception => simp [computed, bind, Except.bind] at sent
  | ok checkCode =>
    simp only [computed, bind, Except.bind, pure, Except.pure, wrapped_window, Except.ok.injEq,
      Prod.mk.injEq] at sent
    obtain ⟨rfl, rfl⟩ := sent
    exact ⟨rfl, checkCode, _, rfl⟩

theorem send_username {after : UploaderData} {call : FrameCall} {frame : List UInt8}
    (sent : data.send call = .ok (after, frame)) :
    after.username = data.username ∧
      ∀ serialNumber time, call = .login serialNumber time →
        (frame.drop 32).take 12 = data.username := by
  cases call with
  | login serialNumber time =>
    simp only [UploaderData.send, bind, Except.bind] at sent
    cases packed : sendPacked (data.updateLoginData serialNumber time).loginData (by decide) with
    | error exception => simp [packed] at sent
    | ok result =>
      obtain ⟨loginData, sentFrame⟩ := result
      simp only [packed, pure, Except.pure, Except.ok.injEq, Prod.mk.injEq] at sent
      obtain ⟨rfl, rfl⟩ := sent
      obtain ⟨whole, checkCode, fits, written⟩ := sendPacked_put packed
      have same : loginData.field 32 12 = data.username := by
        rw [written, Packed.field_put_apart (.inl (by decide))]
        exact updateLoginData_username serialNumber time
      exact ⟨same, fun _ _ _ => whole ▸ same⟩
  | logout time =>
    simp only [UploaderData.send, bind, Except.bind] at sent
    cases packed : sendPacked (data.updateLogoutData time).logoutData (by decide) with
    | error exception => simp [packed] at sent
    | ok result =>
      simp only [packed, pure, Except.pure, Except.ok.injEq, Prod.mk.injEq] at sent
      obtain ⟨rfl, rfl⟩ := sent
      exact ⟨rfl, fun _ _ same => FrameCall.noConfusion same⟩

theorem sends_username {reached : UploaderData} {older : List FrameCall}
    (sent : data.sends older = .ok reached) : reached.username = data.username := by
  induction older generalizing reached with
  | nil =>
    cases sent
    rfl
  | cons call older ih =>
    simp only [UploaderData.sends, bind, Except.bind] at sent
    cases earlier : data.sends older with
    | error exception => simp [earlier] at sent
    | ok middle =>
      cases latest : middle.send call with
      | error exception => simp [earlier, latest] at sent
      | ok result =>
        obtain ⟨after, frame⟩ := result
        simp only [earlier, latest, pure, Except.pure, Except.ok.injEq] at sent
        rw [← sent, (send_username latest).1, ih earlier]

end Frames

end Names

/-- Every login frame of an uploader of the pool carries its user name, and these differ
exactly if there is one uploader, or if one signal has added uploaders whose suffixes all fit
into the field behind the name, with an id that does not reach into them. -/
theorem usernames_distinct_iff [ByteBufferApi] {config : LoginConfig} {uploadChannelsCount : Nat}
    {fresh : UploaderData} {signals : List (Nat → UploaderData)} {pool : List UploaderData}
    (built : uploaderPool config uploadChannelsCount fresh signals = some pool) :
    (∀ data ∈ pool, ∀ older reached serialNumber time after frame, data.sends older = .ok reached →
      reached.send (.login serialNumber time) = .ok (after, frame) →
      (frame.drop 32).take 12 = data.username) ∧
    (pool.Pairwise (fun one other => one.username ≠ other.username) ↔
      Distinguished config uploadChannelsCount signals.length) := by
  constructor
  · intro data _ older reached serialNumber time after frame sent sending
    rw [← sends_username sent]
    exact (send_username sending).2 serialNumber time rfl
  · rw [← poolChannels_distinct_iff, ← List.pairwise_map, pool_usernames built, List.Nodup,
      List.pairwise_map, List.pairwise_map]
    simp only [ne_eq, usernameOf_same_iff]

/-- A name of two bytes and three channels. -/
theorem usernames_distinct_three :
    ∃ pool, uploaderPool ⟨[84, 84], [48], 1, List.replicate 17 51⟩ 3 sampleMemory
        [fun _ => sampleMemory] = some pool ∧
      pool.length = 3 ∧ pool.Pairwise fun one other => one.username ≠ other.username := by
  let := ByteBuffer.reference
  have building : ∃ pool, uploaderPool ⟨[84, 84], [48], 1, List.replicate 17 51⟩ 3 sampleMemory
      [fun _ => sampleMemory] = some pool ∧ pool.length = 3 := ⟨_, rfl, rfl⟩
  obtain ⟨pool, built, three⟩ := building
  exact ⟨pool, built, three, (usernames_distinct_iff built).2.mpr (by decide)⟩

/-- A name that fills its field: both channels log in under it. -/
theorem usernames_same :
    ∃ pool, uploaderPool ⟨[84, 84, 48, 48, 49, 50, 51, 52, 102, 118, 116, 109], [48], 1,
        List.replicate 17 51⟩ 2 sampleMemory [fun _ => sampleMemory] = some pool ∧
      pool.map UploaderData.username =
        [[84, 84, 48, 48, 49, 50, 51, 52, 102, 118, 116, 109],
          [84, 84, 48, 48, 49, 50, 51, 52, 102, 118, 116, 109]] ∧
      ¬ pool.Pairwise fun one other => one.username ≠ other.username := by
  refine ⟨_, rfl, rfl, by decide⟩

end MotorInfoUpload
