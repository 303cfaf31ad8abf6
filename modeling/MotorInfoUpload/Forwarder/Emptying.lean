import MotorInfoUpload.Forwarder.Deadlock
import MotorInfoUpload.Forwarder.Ownership

namespace MotorInfoUpload

open Machine BlockQueue

variable {n : Nat}

/-- A step of uploader `i`, with a platform that accepts connections, and logins and packets
where there is a connection. -/
def Drives (i : Fin n) (state : State n) : Action n → Prop
  | .outside j .next | .outside j .connects | .upload j _ => j = i
  | .outside j (.answered status) => j = i ∧
      status = if state.connected i = true then .responseOk else .connectionClosed
  | .sent j => j = i ∧ state.connected i = true
  | _ => False

/-- What the steps of uploader `i` outside the queues leave as it is. -/
structure Only (i : Fin n) (before after : State n) : Prop where
  realtime : after.realtime = before.realtime
  reissue : after.reissue = before.reissue
  written : after.written = before.written
  accepted : after.accepted = before.accepted
  service : after.service = before.service
  others : ∀ j, j ≠ i → after.uploader j = before.uploader j

theorem Only.refl (i : Fin n) (state : State n) : Only i state state :=
  ⟨rfl, rfl, rfl, rfl, rfl, fun _ _ => rfl⟩

theorem Only.trans {i : Fin n} {before middle after : State n} (earlier : Only i before middle)
    (later : Only i middle after) : Only i before after where
  realtime := later.realtime.trans earlier.realtime
  reissue := later.reissue.trans earlier.reissue
  written := later.written.trans earlier.written
  accepted := later.accepted.trans earlier.accepted
  service := later.service.trans earlier.service
  others j other := (later.others j other).trans (earlier.others j other)

theorem Only.move (i : Fin n) (state : State n) (place : UploaderAt) :
    Only i state (state.move i place) :=
  ⟨rfl, rfl, rfl, rfl, rfl, fun _ other => state.move_other place other⟩

theorem Only.connection (i : Fin n) (state : State n) (up : Bool) :
    Only i state (state.connection i up) := ⟨rfl, rfl, rfl, rfl, rfl, fun _ _ => rfl⟩

section Loop

variable [ByteBufferApi] {capacity : Nat} {i : Fin n} {state next : State n}

/-- The uploader gets to the start of its choice between the queues, with its connection up. -/
def Selects (capacity : Nat) (i : Fin n) (state : State n) : Prop :=
  ∃ after, Reach ((forwarder n capacity).startingAt state) (Drives i) after ∧ Only i state after ∧
    after.uploader i = .select ∧ after.connected i = true

private theorem selects_step {action : Action n} (stepped : state.step action = some next)
    (drives : Drives i state action) (only : Only i state next) (selects : Selects capacity i next) :
    Selects capacity i state := by
  obtain ⟨after, reach, rest, selected, connected⟩ := selects
  have first : Reach ((forwarder n capacity).startingAt state) (Drives i) next :=
    .next (.start rfl) drives stepped
  exact ⟨after, first.append reach fun _ _ same => same, only.trans rest, selected, connected⟩

private theorem selects_walk {place : Outside} (event : Event)
    (standing : state.uploader i = .outside place)
    (stepped : state.outsideStep i place event = some next)
    (drives : Drives i state (.outside i event)) (only : Only i state next)
    (selects : Selects capacity i next) : Selects capacity i state := by
  have moved : state.step (.outside i event) = some next := by
    rw [State.step, standing]
    exact stepped
  exact selects_step moved drives only selects

private theorem selects_select (standing : state.uploader i = .select)
    (connected : state.connected i = true) : Selects capacity i state :=
  ⟨state, .start rfl, .refl i state, standing, connected⟩

private def Rejoins (capacity : Nat) (i : Fin n) (login : LoginCall) : Prop :=
  ∀ state : State n, state.uploader i = login.returns → state.connected i = true →
    Selects capacity i state

private theorem selects_connected {login : LoginCall} (rejoins : Rejoins capacity i login)
    (standing : state.uploader i = .outside (.loginWait login)) (connected : state.connected i = true) :
    Selects capacity i state := by
  apply selects_walk (.answered .responseOk) standing rfl ⟨rfl, (if_pos connected).symm⟩
    (.move i state login.returns)
  exact rejoins _ (State.move_uploader ..) connected

private theorem selects_connecting {login : Option LoginCall}
    (goesOn : ∀ state : State n, state.uploader i = .outside (.connecting login) →
      state.connected i = true → Selects capacity i state)
    (standing : state.uploader i = .outside (.connecting login)) : Selects capacity i state := by
  rcases Bool.eq_false_or_eq_true (state.connected i) with connected | down
  · exact goesOn state standing connected
  · apply selects_walk .connects standing (by simp [State.outsideStep, down]) rfl
      (.connection i state true)
    exact goesOn _ standing (Function.update_self ..)

private theorem selects_connects {login : LoginCall} (rejoins : Rejoins capacity i login)
    (standing : state.uploader i = .outside (.connecting (some login))) : Selects capacity i state := by
  refine selects_connecting (fun state standing connected => ?_) standing
  apply selects_walk .next standing (by simp [State.outsideStep, connected]) rfl
    (.move i state (.outside (.loginSend login)))
  apply selects_walk .next (state.move_uploader i _) rfl rfl (.move i _ (.outside (.loginWait login)))
  exact selects_connected rejoins (State.move_uploader ..) connected

private theorem selects_login {login : LoginCall} (rejoins : Rejoins capacity i login)
    (standing : state.uploader i = .outside (.loginCheck login)) : Selects capacity i state := by
  rcases Bool.eq_false_or_eq_true (state.connected i) with connected | down
  · apply selects_walk .next standing (by simp [State.outsideStep, connected]) rfl
      (.move i state (.outside (.loginSend login)))
    apply selects_walk .next (state.move_uploader i _) rfl rfl (.move i _ (.outside (.loginWait login)))
    exact selects_connected rejoins (State.move_uploader ..) connected
  · apply selects_walk .next standing (by simp [State.outsideStep, down]) rfl
      (.move i state (.outside (.connecting (some login))))
    exact selects_connects rejoins (state.move_uploader i _)

private theorem selects_waiting {login : LoginCall} (rejoins : Rejoins capacity i login)
    (standing : state.uploader i = .outside (.loginWait login)) : Selects capacity i state := by
  rcases Bool.eq_false_or_eq_true (state.connected i) with connected | down
  · exact selects_connected rejoins standing connected
  · apply selects_walk (.answered .connectionClosed) standing rfl ⟨rfl, by simp [down]⟩
      (.move i state (.outside (.loginCheck login)))
    exact selects_login rejoins (state.move_uploader i _)

private theorem rejoins_forward : Rejoins capacity i .forward := fun _ => selects_select

private theorem selects_check (standing : state.uploader i = .outside .check) :
    Selects capacity i state := by
  rcases Bool.eq_false_or_eq_true (state.connected i) with connected | down
  · apply selects_walk .next standing (by simp [State.outsideStep, connected]) rfl
      (.move i state .select)
    exact selects_select (state.move_uploader i _) connected
  · apply selects_walk .next standing (by simp [State.outsideStep, down]) rfl
      (.move i state (.outside (.loginCheck .forward)))
    exact selects_login rejoins_forward (state.move_uploader i _)

private theorem selects_offline (standing : state.uploader i = .outside .offline) :
    Selects capacity i state := by
  apply selects_walk .next standing rfl rfl
    ⟨rfl, rfl, rfl, rfl, rfl, fun _ other => state.move_other (.outside .check) other⟩
  exact selects_check (state.move_uploader i _)

private theorem selects_top (standing : state.uploader i = .outside .top) :
    Selects capacity i state := by
  by_cases leaving : state.mode = some .platformCompliance ∧ state.offline = true
  · apply selects_walk .next standing (if_pos leaving) rfl
      ((Only.connection i state false).trans (.move i _ (.outside .offline)))
    exact selects_offline (State.move_uploader ..)
  · apply selects_walk .next standing (if_neg leaving) rfl (.move i state (.outside .check))
    exact selects_check (state.move_uploader i _)

private theorem rejoins_last : Rejoins capacity i .last := fun _ standing _ => selects_top standing

private theorem selects_logout {k : Nat} (rejoins : Rejoins capacity i (.after (k + 1)))
    (standing : state.uploader i = .outside (.logoutWait k)) (connected : state.connected i = true) :
    Selects capacity i state := by
  apply selects_walk (.answered .responseOk) standing rfl ⟨rfl, (if_pos connected).symm⟩
    (.move i state (.outside (.loginCheck (.after (k + 1)))))
  exact selects_login rejoins (state.move_uploader i _)

private theorem rejoins_round {k : Nat} (rejoins : Rejoins capacity i (.after (k + 1))) :
    Rejoins capacity i (.round k) := by
  intro state standing connected
  apply selects_walk .next standing rfl rfl (.move i state (.outside (.logoutWait k)))
  exact selects_logout rejoins (state.move_uploader i _) connected

/-- The compliance test from round `k` on, by the number of rounds that are left. -/
private theorem rejoins_after (left : Nat) : ∀ k, loginRounds ≤ k + left →
    Rejoins capacity i (.after k) := by
  induction left with
  | zero =>
    intro k past
    rw [LoginCall.after, if_neg (by omega)]
    exact rejoins_last
  | succ left ih =>
    intro k inside
    unfold LoginCall.after
    split
    · exact rejoins_round (ih (k + 1) (by omega))
    · exact rejoins_last

private theorem rejoins_login (login : LoginCall) : Rejoins capacity i login := by
  cases login with
  | round k => exact rejoins_round (rejoins_after loginRounds (k + 1) (by omega))
  | last => exact rejoins_last
  | forward => exact rejoins_forward

/-- An uploader that runs, is in no queue call, and is connected where it counts on that. -/
def UploaderAt.ready (mode : Option EnumRunMode) (connected : Bool) : UploaderAt → Bool
  | .outside .unstarted | .outside .closing | .outside .stopped => false
  | .outside .starting => mode.isSome
  | .outside (.logoutSend _) | .outside (.logoutWait _) => connected
  | .outside _ => true
  | .select | .loaded _ | .sending _ => connected
  | .takeRealtime | .takeReissue | .putBack _ => false

abbrev State.Ready (state : State n) (i : Fin n) : Prop :=
  (state.uploader i).ready state.mode (state.connected i) = true

theorem selects_outside {place : Outside} (ready : state.Ready i)
    (standing : state.uploader i = .outside place) : Selects capacity i state := by
  have first : Rejoins capacity i (.after 0) := rejoins_after loginRounds 0 (by omega)
  have tests (state : State n) (standing : state.uploader i = .outside (.connecting none)) :
      Selects capacity i state := by
    refine selects_connecting (fun state standing connected => ?_) standing
    apply selects_walk .next standing (by simp [State.outsideStep, connected]) rfl
      (.move i state (.outside (.loginCheck (.after 0))))
    exact selects_login first (state.move_uploader i _)
  rw [State.Ready, standing] at ready
  cases place with
  | unstarted | closing | stopped => cases ready
  | starting =>
    cases mode : state.mode with
    | none => simp [mode, UploaderAt.ready] at ready
    | some given =>
      cases given with
      | release =>
        apply selects_walk .next standing (by simp [State.outsideStep, mode]) rfl
          (.move i state (.outside .top))
        exact selects_top (state.move_uploader i _)
      | vehicleCompliance | platformCompliance =>
        apply selects_walk .next standing (by simp [State.outsideStep, mode]) rfl
          (.move i state (.outside (.connecting none)))
        exact tests _ (state.move_uploader i _)
  | connecting login =>
    cases login with
    | none => exact tests state standing
    | some login => exact selects_connects (rejoins_login login) standing
  | loginCheck login => exact selects_login (rejoins_login login) standing
  | loginSend login =>
    apply selects_walk .next standing rfl rfl (.move i state (.outside (.loginWait login)))
    exact selects_waiting (rejoins_login login) (state.move_uploader i _)
  | loginWait login => exact selects_waiting (rejoins_login login) standing
  | logoutSend k => exact rejoins_login (.round k) state standing ready
  | logoutWait k => exact selects_logout (rejoins_login _) standing ready
  | top => exact selects_top standing
  | offline => exact selects_offline standing
  | check => exact selects_check standing

end Loop

section Send

variable [ByteBufferApi]

/-- The packet as `run` takes it from the reissue queue. -/
def Packet.reissued (packet : Packet) : Packet :=
  match markReissue packet.buf with
  | .ok buf => { packet with buf }
  | .error _ => packet

/-- What is written, once uploader `i` has sent all that it can get, in this order. -/
def State.due (state : State n) (i : Fin n) : List Packet :=
  state.written ++ (state.uploader i).held ++ state.reissue.queue.map Packet.reissued ++
    state.realtime.queue

structure Sends (i : Fin n) (before after : State n) : Prop where
  due : after.due i = before.due i
  accepted : after.accepted = before.accepted
  service : after.service = before.service
  others : ∀ j, j ≠ i → after.uploader j = before.uploader j

/-- Uploader `i` can empty both queues. -/
def Empties (capacity : Nat) (i : Fin n) (state : State n) : Prop :=
  ∃ after, Reach ((forwarder n capacity).startingAt state) (Drives i) after ∧ Sends i state after ∧
    after.realtime.queue = [] ∧ after.reissue.queue = [] ∧ (after.uploader i).held = []

variable {capacity : Nat} {i : Fin n} {state next : State n}

private theorem empties_after
    (reach : Reach ((forwarder n capacity).startingAt state) (Drives i) next)
    (sends : Sends i state next) (empties : Empties capacity i next) : Empties capacity i state := by
  obtain ⟨after, later, rest, nothing⟩ := empties
  exact ⟨after, reach.append later fun _ _ same => same, ⟨rest.due.trans sends.due,
    rest.accepted.trans sends.accepted, rest.service.trans sends.service,
    fun j other => (rest.others j other).trans (sends.others j other)⟩, nothing⟩

omit [ByteBufferApi] in
private theorem fails_whole (state : State n) (action : Action n) (drives : Drives i state action) :
    FailsWhole state action := by
  cases action with
  | failed => exact drives.elim
  | _ => trivial

private theorem empties_step {action : Action n} (reach : Reach (forwarder n capacity) FailsWhole state)
    (stepped : state.step action = some next) (drives : Drives i state action)
    (sends : Sends i state next)
    (empties : Reach (forwarder n capacity) FailsWhole next → Empties capacity i next) :
    Empties capacity i state :=
  empties_after (.next (.start rfl) drives stepped) sends
    (empties (reach.next (fails_whole state action drives) stepped))

theorem Forwardable.remains [LawfulByteBuffer] {buf : ByteBuffer} (forwardable : Forwardable buf) :
    0 < ByteBufferApi.remaining buf := by
  obtain ⟨start, long, -, -⟩ := forwardable
  rw [LawfulByteBuffer.remaining_eq, start]
  omega

/-- What holds of the states in which uploader `i` chooses: all of them empty the queues. -/
private def Chooses (capacity : Nat) (i : Fin n) (packets : Nat) : Prop :=
  ∀ state : State n, Reach (forwarder n capacity) FailsWhole state → state.uploader i = .select →
    state.connected i = true → state.reissue.remaining + state.realtime.remaining = packets →
    Empties capacity i state

/-- From outside the queues the uploader comes back to its choice. -/
private theorem empties_outside {place : Outside} (chooses : Chooses capacity i packets)
    (reach : Reach (forwarder n capacity) FailsWhole state) (ready : state.Ready i)
    (standing : state.uploader i = .outside place)
    (counted : state.reissue.remaining + state.realtime.remaining = packets) :
    Empties capacity i state := by
  have outside : Selects capacity i state := selects_outside ready standing
  obtain ⟨after, later, only, selects, connected⟩ := outside
  refine empties_after later ⟨?_, only.accepted, only.service, only.others⟩
    (chooses after (reach.append later fails_whole) selects connected ?_)
  · simp only [State.due, selects, standing, only.realtime, only.reissue, only.written, UploaderAt.held]
  · rw [only.realtime, only.reissue, counted]

private theorem empties_sending (chooses : Chooses capacity i packets)
    (reach : Reach (forwarder n capacity) FailsWhole state)
    (standing : state.uploader i = .sending packet) (connected : state.connected i = true)
    (legal : DataPacketHeader.cmdId packet.buf.array ∈ legalCmds)
    (counted : state.reissue.remaining + state.realtime.remaining = packets) :
    Empties capacity i state := by
  let next : State n := { state.move i (.outside .top) with written := state.written ++ [packet] }
  have stepped : state.step (.sent i) = some next := by
    simp only [State.step, State.sendStep, standing, if_pos legal]
    rfl
  have top : next.uploader i = .outside .top := state.move_uploader i _
  refine empties_step reach stepped ⟨rfl, connected⟩
    ⟨?_, rfl, rfl, fun j other => state.move_other _ other⟩ fun reached =>
      empties_outside chooses reached ?_ top counted
  · simp only [State.due, standing, top, UploaderAt.held, List.append_nil]
    rfl
  · rw [State.Ready, top]
    rfl

private theorem empties_loaded [LawfulByteBuffer] (chooses : Chooses capacity i packets)
    (reach : Reach (forwarder n capacity) FailsWhole state)
    (standing : state.uploader i = .loaded packet) (connected : state.connected i = true)
    (forwardable : Forwardable packet.buf)
    (counted : state.reissue.remaining + state.realtime.remaining = packets) :
    Empties capacity i state := by
  have stepped : state.step (.upload i none) = some (state.move i (.sending packet)) := by
    simp only [State.step, State.uploadStep, standing, if_pos forwardable.remains]
  have sending : (state.move i (.sending packet)).uploader i = .sending packet :=
    state.move_uploader i _
  refine empties_step reach stepped rfl
    ⟨?_, rfl, rfl, fun j other => state.move_other _ other⟩ fun reached =>
      empties_sending chooses reached sending connected forwardable.legal counted
  simp only [State.due, standing, sending, UploaderAt.held]
  rfl

private theorem exists_front (reach : Reach (forwarder n capacity) FailsWhole state)
    (standing : state.uploader i = .select) (name : QueueName) (more : (state.queue name).queue ≠ []) :
    ∃ woken after data, Taken (state.queue name) after data woken ∧
      (state.queue name).take (.uploader i) woken = some (.returns after data) := by
  have awake : ¬ (state.queue name).asleep (.uploader i) :=
    State.awake_of_reach (reach.mono fun _ _ _ => trivial)
      (by simp [State.call, standing, UploaderAt.call])
  obtain ⟨woken, turn, turned⟩ := exists_take awake
  obtain ⟨nothing, -⟩ | ⟨after, data, rfl, taken⟩ := (take_cases turned).2
  · exact absurd nothing more
  · exact ⟨woken, after, data, taken, turned⟩

private theorem empties_reissue [LawfulByteBuffer] (chooses : Chooses capacity i packets)
    (reach : Reach (forwarder n capacity) FailsWhole state)
    (standing : state.uploader i = .select) (connected : state.connected i = true)
    (more : state.reissue.queue ≠ [])
    (counted : state.reissue.remaining + state.realtime.remaining = packets + 1) :
    Empties capacity i state := by
  let taking := state.move i .takeReissue
  have chosen : state.step (.upload i none) = some taking := by
    have found : state.reissue.isEmpty = false := by simpa [isEmpty] using more
    simp only [State.step, State.uploadStep, standing, found]
    rfl
  have takes : taking.uploader i = .takeReissue := state.move_uploader i _
  obtain ⟨woken, reissue, data, taken, turned⟩ := exists_front reach standing .reissue more
  have stored : state.reissue.queue = data :: reissue.queue := taken.queue
  have kept := kept_of_reach reach
  have sound := kept.sound .reissue data (by simp [State.contents, stored])
  obtain ⟨buf, marked, forwardable, -⟩ := markReissue_forwardable sound.forwardable
  let next : State n := { taking.move i (.loaded { data with buf }) with reissue }
  have stepped : taking.step (.upload i woken) = some next := by
    simp only [State.step, State.uploadStep, takes]
    change ((state.queue .reissue).take (.uploader i) woken).map _ = _
    rw [turned, Option.map_some]
    simp only [marked]
    rfl
  have loaded : next.uploader i = .loaded { data with buf } := taking.move_uploader i _
  refine empties_step reach chosen rfl ⟨?_, rfl, rfl, fun j other => state.move_other _ other⟩
    fun reached => empties_step reached stepped rfl
      ⟨?_, rfl, rfl, fun j other => taking.move_other _ other⟩ fun reached =>
        empties_loaded chooses reached loaded connected forwardable ?_
  · simp only [State.due, standing, takes, UploaderAt.held]
    rfl
  · have mark : data.reissued = { data with buf } := by simp only [Packet.reissued, marked]
    simp only [State.due, takes, loaded, UploaderAt.held]
    change state.written ++ [{ data with buf }] ++ reissue.queue.map Packet.reissued ++
        state.realtime.queue =
      state.written ++ [] ++ state.reissue.queue.map Packet.reissued ++ state.realtime.queue
    rw [stored, List.map_cons, mark]
    simp
  · change reissue.queue.length + state.realtime.queue.length = packets
    have size : state.reissue.queue.length = reissue.queue.length + 1 := by rw [stored, List.length_cons]
    simp only [remaining] at counted
    omega

private theorem empties_realtime [LawfulByteBuffer] (chooses : Chooses capacity i packets)
    (reach : Reach (forwarder n capacity) FailsWhole state)
    (standing : state.uploader i = .select) (connected : state.connected i = true)
    (nothing : state.reissue.queue = []) (more : state.realtime.queue ≠ [])
    (counted : state.reissue.remaining + state.realtime.remaining = packets + 1) :
    Empties capacity i state := by
  let taking := state.move i .takeRealtime
  have chosen : state.step (.upload i none) = some taking := by
    have found : state.reissue.isEmpty = true := by simpa [isEmpty] using nothing
    simp only [State.step, State.uploadStep, standing, found]
    rfl
  have takes : taking.uploader i = .takeRealtime := state.move_uploader i _
  obtain ⟨woken, realtime, data, taken, turned⟩ := exists_front reach standing .realtime more
  have stored : state.realtime.queue = data :: realtime.queue := taken.queue
  have sound := (kept_of_reach reach).sound .realtime data (by simp [State.contents, stored])
  let next : State n := { taking.move i (.loaded data) with realtime }
  have stepped : taking.step (.upload i woken) = some next := by
    simp only [State.step, State.uploadStep, takes]
    change ((state.queue .realtime).take (.uploader i) woken).map _ = _
    rw [turned, Option.map_some]
  have loaded : next.uploader i = .loaded data := taking.move_uploader i _
  refine empties_step reach chosen rfl ⟨?_, rfl, rfl, fun j other => state.move_other _ other⟩
    fun reached => empties_step reached stepped rfl
      ⟨?_, rfl, rfl, fun j other => taking.move_other _ other⟩ fun reached =>
        empties_loaded chooses reached loaded connected sound.forwardable ?_
  · simp only [State.due, standing, takes, UploaderAt.held]
    rfl
  · simp only [State.due, takes, loaded, UploaderAt.held]
    change state.written ++ [data] ++ state.reissue.queue.map Packet.reissued ++ realtime.queue =
      state.written ++ [] ++ state.reissue.queue.map Packet.reissued ++ state.realtime.queue
    rw [stored, nothing]
    simp only [List.map_nil, List.append_nil, List.append_assoc, List.singleton_append]
  · change state.reissue.queue.length + realtime.queue.length = packets
    have size : state.realtime.queue.length = realtime.queue.length + 1 := by
      rw [stored, List.length_cons]
    simp only [remaining] at counted
    omega

private theorem chooses_all [LawfulByteBuffer] (packets : Nat) : Chooses capacity i packets := by
  induction packets with
  | zero =>
    intro state reach standing connected counted
    simp only [remaining, Nat.add_eq_zero_iff, List.length_eq_zero_iff] at counted
    exact ⟨state, .start rfl, ⟨rfl, rfl, rfl, fun _ _ => rfl⟩, counted.2, counted.1,
      by rw [standing]; rfl⟩
  | succ packets chooses =>
    intro state reach standing connected counted
    by_cases nothing : state.reissue.queue = []
    · refine empties_realtime chooses reach standing connected nothing (fun none => ?_) counted
      simp [remaining, nothing, none] at counted
    · exact empties_reissue chooses reach standing connected nothing counted

/-- Nothing that is queued is stuck as long as one uploader is in no queue call: from every
reachable state, that uploader alone, with a platform that accepts its logins and packets, empties
both queues. It sends what it holds, then the whole reissue queue, marked, and then the whole
realtime queue, each in order and each packet once. -/
theorem queues_emptied [LawfulByteBuffer] (reach : Reach (forwarder n capacity) FailsWhole state)
    (ready : state.Ready i) :
    ∃ after, Reach ((forwarder n capacity).startingAt state) (Drives i) after ∧
      after.realtime.queue = [] ∧ after.reissue.queue = [] ∧
      after.written = state.written ++ (state.uploader i).held ++
        state.reissue.queue.map Packet.reissued ++ state.realtime.queue ∧
      after.accepted = state.accepted ∧ after.service = state.service ∧
      ∀ j, j ≠ i → after.uploader j = state.uploader j := by
  have chooses : Chooses capacity i (state.reissue.remaining + state.realtime.remaining) :=
    chooses_all _
  have empties : Empties capacity i state := by
    have sound := (kept_of_reach reach).sound (.uploader i)
    have start := ready
    rw [State.Ready] at ready
    cases standing : state.uploader i with
    | outside place => exact empties_outside chooses reach start standing rfl
    | select =>
      rw [standing] at ready
      exact chooses state reach standing ready rfl
    | loaded packet =>
      rw [standing] at ready
      have sound := sound packet (by simp [State.contents, standing, UploaderAt.held])
      exact empties_loaded chooses reach standing ready sound.forwardable rfl
    | sending packet =>
      rw [standing] at ready
      have sound := sound packet (by simp [State.contents, standing, UploaderAt.held])
      exact empties_sending chooses reach standing ready sound.forwardable.legal rfl
    | takeRealtime | takeReissue | putBack =>
      rw [standing] at ready
      cases ready
  obtain ⟨after, later, sends, realtime, reissue, held⟩ := empties
  refine ⟨after, later, realtime, reissue, ?_, sends.accepted, sends.service, sends.others⟩
  have due := sends.due
  simpa [State.due, realtime, reissue, held] using due

omit [ByteBufferApi] in
/-- A packet is being sent and a second one is queued. -/
theorem queues_emptied_two :
    ∃ after : State 1, after.realtime.queue = [] ∧ after.written.map Packet.seq = [0, 1] := by
  let := ByteBuffer.reference
  have := ByteBuffer.reference_lawful
  have initial : Reach (forwarder 1 5) FailsWhole (State.initial 1 5 (some .release)) := .start ⟨_, rfl⟩
  obtain ⟨state, reach, ready, due⟩ := initial.exists_of_schedule
    (fun state => state.Ready 0 ∧ (state.due 0).map Packet.seq = [0, 1])
    (loggedIn ++ [.accept (sampleRead .vehicleLogin), .service none, .service (some (.uploader 0)),
      .upload 0 none, .upload 0 none, .accept (sampleRead .vehicleLogout), .service none,
      .service none]) (by decide +kernel)
  obtain ⟨after, -, realtime, -, written, -⟩ := queues_emptied reach ready
  refine ⟨after, realtime, ?_⟩
  rw [written]
  exact due

end Send

end MotorInfoUpload
