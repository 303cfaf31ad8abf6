import MotorInfoUpload.Platform.PublicServer
import Mathlib.Computability.Language

namespace MotorInfoUpload

open Machine

variable {n : Nat}

namespace Conversation

open scoped Computability

def login : Language Command := {[.login]}

def logout : Language Command := {[.logout]}

def packet : Language Command := Set.range fun packet => [.packet packet]

def tested : Language Command := (login * login∗ * logout)∗

def entered : Language Command := tested * (login * login∗)

def uploading : Language Command := entered * packet∗

def opening : Language Command := tested + entered

/-- All that a connection carries. -/
def conversation : Language Command := tested + uploading

variable {line : List Command}

theorem nil_tested : [] ∈ tested := Language.nil_mem_kstar _

theorem tested_login (before : line ∈ tested) : line ++ [.login] ∈ entered := by
  have once : [Command.login] ∈ login * login∗ :=
    Language.append_mem_mul (b := []) (show [Command.login] ∈ login from rfl) (Language.nil_mem_kstar _)
  exact Language.append_mem_mul before once

theorem entered_login (before : line ∈ entered) : line ++ [.login] ∈ entered := by
  have more : entered * login ≤ entered := by
    rw [entered, mul_assoc, mul_assoc]
    exact mul_le_mul_right (mul_le_mul_right kstar_mul_le_kstar _) _
  exact more (Language.append_mem_mul before rfl)

theorem entered_logout (before : line ∈ entered) : line ++ [.logout] ∈ tested := by
  have round : entered * logout ≤ tested := by
    rw [entered, mul_assoc]
    exact kstar_mul_le_kstar
  exact round (Language.append_mem_mul before rfl)

theorem uploading_packet (before : line ∈ uploading) (data : Packet) :
    line ++ [.packet data] ∈ uploading := by
  have more : uploading * packet ≤ uploading := by
    rw [uploading, mul_assoc]
    exact mul_le_mul_right kstar_mul_le_kstar _
  exact more (Language.append_mem_mul before ⟨data, rfl⟩)

theorem entered_uploading (before : line ∈ entered) : line ∈ uploading := by
  have nothing : entered * 1 ≤ uploading := mul_le_mul_right one_le_kstar _
  exact nothing (by rwa [mul_one])

theorem opening_login (before : line ∈ opening) : line ++ [.login] ∈ entered :=
  before.elim tested_login entered_login

end Conversation

/-- Which part of `Uploader::run` an uploader is in. -/
inductive Stage where
  | fresh
  | testing (round : Nat)
  | tested
  | serving
  | done

def LoginCall.stage : LoginCall → Stage
  | .round i => .testing i
  | .last => .tested
  | .forward => .serving

def Outside.stage : Outside → Stage
  | .unstarted | .starting => .fresh
  | .connecting none => (LoginCall.after 0).stage
  | .connecting (some login) | .loginCheck login | .loginSend login | .loginWait login => login.stage
  | .logoutSend i => .testing i
  | .logoutWait i => (LoginCall.after (i + 1)).stage
  | .top | .offline | .check => .serving
  | .closing | .stopped => .done

def UploaderAt.stage : UploaderAt → Stage
  | .outside place => place.stage
  | _ => .serving

/-- The logouts of a run mode. -/
def logoutsOf (mode : Option EnumRunMode) : Nat := if mode = some .release then 0 else loginRounds

section Lines

variable {mode : Option EnumRunMode} {lines : List (List Command)}

def logouts (lines : List (List Command)) : Nat := lines.flatten.count .logout

def NoPackets (lines : List (List Command)) : Prop := ∀ packet, .packet packet ∉ lines.flatten

def Stage.Fits (mode : Option EnumRunMode) (lines : List (List Command)) : Stage → Prop
  | .fresh => lines = []
  | .testing round =>
    mode ≠ some .release ∧ round < loginRounds ∧ logouts lines = round ∧ NoPackets lines
  | .tested => mode ≠ some .release ∧ logouts lines = loginRounds ∧ NoPackets lines
  | .serving => logouts lines = logoutsOf mode
  | .done => logouts lines ≤ logoutsOf mode ∧
      ∀ packet, .packet packet ∈ lines.flatten → logouts lines = logoutsOf mode

theorem logoutsOf_compliance (compliance : mode ≠ some .release) : logoutsOf mode = loginRounds :=
  if_neg compliance

theorem Stage.Fits.leave {stage : Stage} (fits : stage.Fits mode lines) :
    Stage.done.Fits mode lines := by
  cases stage with
  | fresh =>
    obtain rfl := fits
    exact ⟨Nat.zero_le _, fun packet sent => by cases sent⟩
  | testing round =>
    obtain ⟨compliance, inside, counted, none⟩ := fits
    rw [Stage.Fits, logoutsOf_compliance compliance]
    exact ⟨by omega, fun packet sent => absurd sent (none packet)⟩
  | tested =>
    obtain ⟨compliance, counted, none⟩ := fits
    rw [Stage.Fits, logoutsOf_compliance compliance]
    exact ⟨counted.le, fun packet sent => absurd sent (none packet)⟩
  | serving => exact ⟨Nat.le_of_eq fits, fun _ _ => fits⟩
  | done => exact fits

theorem Stage.Fits.serve (fits : Stage.tested.Fits mode lines) : Stage.serving.Fits mode lines := by
  obtain ⟨compliance, counted, -⟩ := fits
  rw [Stage.Fits, logoutsOf_compliance compliance, counted]

/-- The stage of a login call asks of the lines how many logouts they have, and before the
last login of the test whether they have packets. -/
theorem LoginCall.fits_congr {login : LoginCall} {after : List (List Command)}
    (fits : login.stage.Fits mode lines) (same : logouts after = logouts lines)
    (packets : NoPackets lines → NoPackets after) : login.stage.Fits mode after := by
  cases login with
  | round i =>
    obtain ⟨compliance, inside, counted, none⟩ := fits
    exact ⟨compliance, inside, same.trans counted, packets none⟩
  | last =>
    obtain ⟨compliance, counted, none⟩ := fits
    exact ⟨compliance, same.trans counted, packets none⟩
  | forward => exact same.trans fits

theorem Stage.Fits.logout {round : Nat} {after : List (List Command)}
    (fits : (Stage.testing round).Fits mode lines) (more : logouts after = logouts lines + 1)
    (packets : NoPackets lines → NoPackets after) :
    (LoginCall.after (round + 1)).stage.Fits mode after := by
  obtain ⟨compliance, inside, counted, none⟩ := fits
  unfold LoginCall.after
  split
  · rename_i next
    exact ⟨compliance, next, by omega, packets none⟩
  · exact ⟨compliance, by omega, packets none⟩

/-- The last connection carries a line of the language. -/
def LineIs (language : Language Command) (lines : List (List Command)) : Prop :=
  ∃ line earlier, lines = line :: earlier ∧ line ∈ language

/-- What the place of an uploader says about its last connection. -/
def Outside.Line (up : Bool) (lines : List (List Command)) : Outside → Prop
  | .unstarted | .starting | .closing | .stopped => True
  | .connecting _ | .loginCheck _ => up = true → LineIs Conversation.opening lines
  | .loginSend _ => LineIs Conversation.opening lines
  | .loginWait _ | .logoutSend _ => LineIs Conversation.entered lines
  | .logoutWait _ => LineIs Conversation.tested lines
  | .top | .offline | .check => up = true → LineIs Conversation.uploading lines

def UploaderAt.Line (up : Bool) (lines : List (List Command)) : UploaderAt → Prop
  | .outside place => place.Line up lines
  | _ => LineIs Conversation.uploading lines

/-- What is known of the connections of an uploader. -/
structure Spoken (mode : Option EnumRunMode) (place : UploaderAt) (up : Bool)
    (lines : List (List Command)) : Prop where
  spoken : ∀ line ∈ lines, line ∈ Conversation.conversation
  begun : up = true → lines ≠ []
  stage : place.stage.Fits mode lines
  last : place.Line up lines

variable {place next : UploaderAt} {up : Bool} {line : List Command} {earlier : List (List Command)}
  {command : Command}

theorem logouts_write : logouts ((line ++ [command]) :: earlier) =
    logouts (line :: earlier) + if command = .logout then 1 else 0 := by
  simp only [logouts, List.flatten_cons, List.count_append, List.count_singleton, beq_iff_eq]
  omega

theorem NoPackets.write (none : NoPackets (line :: earlier))
    (other : ∀ packet, command ≠ .packet packet) : NoPackets ((line ++ [command]) :: earlier) := by
  intro packet sent
  have last : (.packet packet) ∈ line ∨ Command.packet packet = command ∨
      (.packet packet) ∈ earlier.flatten := by simpa using sent
  rcases last with before | now | older
  · exact none packet (by simp [before])
  · exact other packet now.symm
  · exact none packet (by simp [older])

theorem Spoken.connect {login : Option LoginCall}
    (spoken : Spoken mode (.outside (.connecting login)) false lines) :
    Spoken mode (.outside (.connecting login)) true ([] :: lines) where
  spoken := List.forall_mem_cons.mpr ⟨.inl Conversation.nil_tested, spoken.spoken⟩
  begun _ := List.cons_ne_nil _ _
  stage := by
    have counted : logouts ([] :: lines) = logouts lines := by simp [logouts]
    have packets (none : NoPackets lines) : NoPackets ([] :: lines) := by simpa [NoPackets] using none
    have stage := spoken.stage
    cases login with
    | none => exact @LoginCall.fits_congr _ _ (.after 0) _ stage counted packets
    | some login => exact LoginCall.fits_congr stage counted packets
  last _ := ⟨[], lines, rfl, .inl Conversation.nil_tested⟩

theorem Spoken.write (spoken : Spoken mode place up (line :: earlier))
    (said : line ++ [command] ∈ Conversation.conversation)
    (stage : next.stage.Fits mode ((line ++ [command]) :: earlier))
    (last : next.Line up ((line ++ [command]) :: earlier)) :
    Spoken mode next up ((line ++ [command]) :: earlier) where
  spoken := List.forall_mem_cons.mpr ⟨said, (List.forall_mem_cons.mp spoken.spoken).2⟩
  begun _ := List.cons_ne_nil _ _
  stage := stage
  last := last

theorem Spoken.login {login : LoginCall}
    (spoken : Spoken mode (.outside (.loginSend login)) up (line :: earlier))
    (opening : line ∈ Conversation.opening) :
    Spoken mode (.outside (.loginWait login)) up ((line ++ [.login]) :: earlier) := by
  have entered := Conversation.opening_login opening
  have counted : logouts ((line ++ [.login]) :: earlier) = logouts (line :: earlier) := by
    rw [logouts_write, if_neg (by simp), Nat.add_zero]
  have packets (none : NoPackets (line :: earlier)) : NoPackets ((line ++ [.login]) :: earlier) :=
    none.write (by simp)
  exact spoken.write (.inr (Conversation.entered_uploading entered))
    (LoginCall.fits_congr spoken.stage counted packets) ⟨_, _, rfl, entered⟩

theorem Spoken.logout {round : Nat}
    (spoken : Spoken mode (.outside (.logoutSend round)) up (line :: earlier))
    (entered : line ∈ Conversation.entered) :
    Spoken mode (.outside (.logoutWait round)) up ((line ++ [.logout]) :: earlier) := by
  have tested := Conversation.entered_logout entered
  have counted : logouts ((line ++ [.logout]) :: earlier) = logouts (line :: earlier) + 1 := by
    rw [logouts_write, if_pos rfl]
  have packets (none : NoPackets (line :: earlier)) : NoPackets ((line ++ [.logout]) :: earlier) :=
    none.write (by simp)
  exact spoken.write (.inl tested) (spoken.stage.logout counted packets) ⟨_, _, rfl, tested⟩

theorem Spoken.upload {packet : Packet}
    (spoken : Spoken mode (.sending packet) up (line :: earlier))
    (uploading : line ∈ Conversation.uploading) (serving : next.stage = .serving)
    (last : LineIs Conversation.uploading ((line ++ [.packet packet]) :: earlier) →
      next.Line up ((line ++ [.packet packet]) :: earlier)) :
    Spoken mode next up ((line ++ [.packet packet]) :: earlier) := by
  have more := Conversation.uploading_packet uploading packet
  have counted : logouts ((line ++ [.packet packet]) :: earlier) = logouts (line :: earlier) := by
    rw [logouts_write, if_neg (by simp), Nat.add_zero]
  have stage : logouts (line :: earlier) = logoutsOf mode := spoken.stage
  exact spoken.write (.inr more) (by rw [serving]; exact counted.trans stage) (last ⟨_, _, rfl, more⟩)

theorem Spoken.moves {still : Bool} (spoken : Spoken mode place up lines)
    (connected : still = true → up = true) (stage : next.stage.Fits mode lines)
    (last : next.Line still lines) : Spoken mode next still lines :=
  ⟨spoken.spoken, fun up => spoken.begun (connected up), stage, last⟩

end Lines

namespace PublicServer

variable {server : PublicServer}

theorem connections_close (server : PublicServer) : server.close.connections = server.connections := by
  obtain ⟨_ | socket⟩ := server <;> rfl

theorem connections_connect (server : PublicServer) :
    (server.connect true).connections = [] :: server.connections := by
  obtain ⟨_ | socket⟩ := server <;> rfl

theorem connections_write {after : PublicServer} {command : Command}
    (written : server.write command = some after) (lines : server.connections = line :: earlier) :
    after.connections = (line ++ [command]) :: earlier := by
  obtain ⟨socket, found, rfl⟩ := Option.map_eq_some_iff.mp written
  have own : socket.connections = line :: earlier := by
    rwa [connections, found] at lines
  rw [connections, Socket.write, own]

theorem connections_kept {after : PublicServer} {call : Option ServerCall}
    (answers : server.answerTo call = some after) {command : Command}
    (said : command ∈ server.connections.flatten) : command ∈ after.connections.flatten := by
  cases call with
  | none => exact Option.some.inj answers ▸ said
  | some request =>
    cases request with
    | close | lost =>
      obtain rfl := Option.some.inj answers
      exact server.connections_close.symm ▸ said
    | connect accepted =>
      obtain rfl := Option.some.inj answers
      cases accepted with
      | false => exact said
      | true =>
        rw [server.connections_connect]
        exact said
    | write other =>
      cases lines : server.connections with
      | nil => simp [lines] at said
      | cons line earlier =>
        rw [server.connections_write answers lines]
        rw [lines] at said
        simp only [List.flatten_cons, List.mem_append] at said ⊢
        exact said.imp .inl id

theorem connections_said {after : PublicServer} {command : Command}
    (written : server.write command = some after) : command ∈ after.connections.flatten := by
  obtain ⟨socket, -, rfl⟩ := Option.map_eq_some_iff.mp written
  change command ∈ (socket.write command).connections.flatten
  unfold Socket.write
  split <;> simp

end PublicServer

section Turns

variable {before : State n} {i : Fin n} {server after : PublicServer} {call : Option ServerCall}
  {place next : UploaderAt} {up : Bool} {mode : Option EnumRunMode} {lines : List (List Command)}

theorem UploaderAt.Line.drop (last : place.Line up lines) : place.Line false lines := by
  cases place with
  | outside outside =>
    cases outside with
    | connecting | loginCheck | top | offline | check => exact fun impossible => by cases impossible
    | _ => exact last
  | _ => exact last

theorem UploaderAt.serving_stage (serving : place.serving = true) : place.stage = .serving := by
  cases place with
  | outside => cases serving
  | _ => rfl

theorem UploaderAt.serving_line (serving : place.serving = true) :
    place.Line up lines = LineIs Conversation.uploading lines := by
  cases place with
  | outside => cases serving
  | _ => rfl

private def Wordless (place : Outside) (event : Event) : Prop :=
  event ≠ .connects ∧ (∀ login, place ≠ .loginSend login) ∧ ∀ round, place ≠ .logoutSend round

private theorem connections_wordless {place : Outside} {event : Event}
    (standing : before.uploader i = .outside place) (wordless : Wordless place event)
    (answers : server.answerTo ((before.serverCall (.outside i event)).map Prod.snd) = some after) :
    after.connections = server.connections := by
  have called : before.serverCall (.outside i event) = none ∨
      before.serverCall (.outside i event) = some (i, .close) ∨
      before.serverCall (.outside i event) = some (i, .connect false) := by
    obtain ⟨connects, login, logout⟩ := wordless
    simp only [State.serverCall, standing]
    split
    · split <;> simp
    · split <;> simp
    · exact absurd rfl connects
    · exact .inr (.inr rfl)
    · rename_i same
      exact absurd (UploaderAt.outside.inj same) (login _)
    · rename_i same
      exact absurd (UploaderAt.outside.inj same) (logout _)
    · split <;> simp
    · exact .inr (.inl rfl)
    · exact .inl rfl
  rcases called with called | called | called
  · rw [called] at answers
    exact congrArg _ (Option.some.inj answers).symm
  · rw [called] at answers
    obtain rfl := Option.some.inj answers
    exact server.connections_close
  · rw [called] at answers
    exact congrArg _ (Option.some.inj answers).symm

private theorem path_wordless {place : Outside} {event : Event}
    (path : Path before (before.connected i) place event next up)
    (spoken : Spoken before.mode (.outside place) (before.connected i) lines)
    (wordless : Wordless place event) : Spoken before.mode next up lines := by
  have stage := spoken.stage
  have last := spoken.last
  cases path with
  | released mode =>
    obtain rfl : lines = [] := stage
    refine spoken.moves id ?_ fun connected => absurd rfl (spoken.begun connected)
    change logouts [] = logoutsOf before.mode
    rw [logoutsOf, if_pos mode]
    rfl
  | tested given mode =>
    obtain rfl : lines = [] := stage
    refine spoken.moves id ?_ fun connected => absurd rfl (spoken.begun connected)
    exact ⟨mode, by decide, rfl, fun packet sent => by cases sent⟩
  | unrecognized | throws | refused | unanswered => exact spoken.moves id stage.leave trivial
  | connects => exact absurd rfl wordless.1
  | login => exact absurd rfl (wordless.2.1 _)
  | logout => exact absurd rfl (wordless.2.2 _)
  | tests | declined => exact spoken.moves id stage last
  | connected connected => exact spoken.moves id stage (last connected)
  | checked connected => exact spoken.moves id stage (last connected)
  | reconnects down => exact spoken.moves id stage last
  | @loggedIn login =>
    obtain ⟨line, earlier, same, entered⟩ := last
    have uploading : LineIs Conversation.uploading lines :=
      ⟨line, earlier, same, Conversation.entered_uploading entered⟩
    cases login with
    | round number => exact spoken.moves id stage ⟨line, earlier, same, entered⟩
    | last => exact spoken.moves id stage.serve fun _ => uploading
    | forward => exact spoken.moves id stage uploading
  | again =>
    obtain ⟨line, earlier, same, entered⟩ := last
    exact spoken.moves id stage fun _ => ⟨line, earlier, same, .inr entered⟩
  | loggedOut =>
    obtain ⟨line, earlier, same, tested⟩ := last
    exact spoken.moves id stage fun _ => ⟨line, earlier, same, .inl tested⟩
  | leaves => exact spoken.moves (fun up => by cases up) stage fun up => by cases up
  | stays | returns => exact spoken.moves id stage last
  | enters connected => exact spoken.moves id stage (last connected)
  | relogs down => exact spoken.moves id stage fun connected => by simp [down] at connected
  | stops => exact spoken.moves (fun up => by cases up) stage trivial

private theorem spoken_path {place : Outside} {event : Event}
    (standing : before.uploader i = .outside place)
    (path : Path before (before.connected i) place event next up)
    (answers : server.answerTo ((before.serverCall (.outside i event)).map Prod.snd) = some after)
    (spoken : Spoken before.mode (.outside place) (before.connected i) server.connections) :
    Spoken before.mode next up after.connections := by
  have says_nothing (wordless : Wordless place event) :
      Spoken before.mode next up after.connections := by
    rw [connections_wordless standing wordless answers]
    exact path_wordless path spoken wordless
  cases path with
  | connects down =>
    simp only [State.serverCall, standing] at answers
    obtain rfl := Option.some.inj answers
    rw [server.connections_connect]
    exact (down ▸ spoken).connect
  | login =>
    simp only [State.serverCall, standing] at answers
    obtain ⟨line, earlier, lines, opening⟩ := spoken.last
    rw [server.connections_write answers lines]
    exact (lines ▸ spoken).login opening
  | logout =>
    simp only [State.serverCall, standing] at answers
    obtain ⟨line, earlier, lines, entered⟩ := spoken.last
    rw [server.connections_write answers lines]
    exact (lines ▸ spoken).logout entered
  | _ => exact says_nothing ⟨by simp, by simp, by simp⟩

/-- A step keeps what is known of the connections of an uploader. -/
theorem UploaderTurn.spoken (turn : UploaderTurn before i call next up)
    (answers : server.answerTo call = some after)
    (spoken : Spoken before.mode (before.uploader i) (before.connected i) server.connections) :
    Spoken before.mode next up after.connections := by
  cases turn with
  | stays =>
    obtain rfl := Option.some.inj answers
    exact spoken
  | starts fresh =>
    obtain rfl := Option.some.inj answers
    rw [fresh] at spoken
    exact spoken.moves id spoken.stage trivial
  | walks standing path => exact spoken_path standing path answers (standing ▸ spoken)
  | serves standing goes =>
    obtain rfl := Option.some.inj answers
    have stage : Stage.serving.Fits before.mode server.connections :=
      UploaderAt.serving_stage standing ▸ spoken.stage
    have last : LineIs Conversation.uploading server.connections :=
      UploaderAt.serving_line standing ▸ spoken.last
    rcases goes with serving | rfl | rfl
    · exact spoken.moves id (UploaderAt.serving_stage serving ▸ stage)
        (UploaderAt.serving_line serving ▸ last)
    · exact spoken.moves id stage fun _ => last
    · exact spoken.moves id stage.leave trivial
  | @writes packet _ standing goes =>
    rw [standing] at spoken
    obtain ⟨line, earlier, lines, uploading⟩ := spoken.last
    rw [server.connections_write answers lines]
    rw [lines] at spoken
    rcases goes with serving | rfl
    · exact spoken.upload uploading (UploaderAt.serving_stage serving) fun last =>
        UploaderAt.serving_line serving ▸ last
    · exact spoken.upload uploading rfl fun last _ => last
  | drops connected =>
    obtain rfl := Option.some.inj answers
    rw [PublicServer.lost, server.connections_close]
    exact spoken.moves (fun up => by cases up) spoken.stage spoken.last.drop

end Turns

section Runs

variable [ByteBufferApi] {links after : Uplinks n}

private theorem step_mode {before after : State n} {action : Action n}
    (stepped : before.step action = some after) : after.mode = before.mode := by
  cases State.step_cases stepped with
  | service moved => cases moved <;> rfl
  | outside standing moved => cases moved <;> rfl
  | upload moved => cases moved <;> rfl
  | _ => rfl

private theorem step_written {before after : State n} {action : Action n}
    (stepped : before.step action = some after) : after.written = before.written ∨
      ∃ i packet, before.uploader i = .sending packet ∧
        before.serverCall action = some (i, .write (.packet packet)) ∧
        after.written = before.written ++ [packet] := by
  cases State.step_cases stepped with
  | service moved => cases moved <;> exact .inl rfl
  | outside standing moved => cases moved <;> exact .inl rfl
  | upload moved => cases moved <;> exact .inl rfl
  | @sent i packet standing =>
    exact .inr ⟨i, packet, standing, by simp [State.serverCall, standing], rfl⟩
  | _ => exact .inl rfl

/-- What is known of all connections in a run. -/
structure Uplinks.Speaks (links : Uplinks n) : Prop where
  spoken : ∀ i, Spoken links.state.mode (links.state.uploader i) (links.state.connected i)
    (links.server i).connections
  written : ∀ packet ∈ links.state.written, ∃ i,
    Command.packet packet ∈ (links.server i).connections.flatten

theorem Uplinks.Speaks.step {action : UplinkAction n} (sound : links.Sound) (speaks : links.Speaks)
    (stepped : links.step action = some after) : after.Speaks := by
  rcases sound.step_cases stepped with ⟨action, state, moved, rfl⟩ | ⟨state, server, -⟩
  · obtain ⟨-, -, answers⟩ := sound.answers moved
    refine ⟨fun i => ?_, fun packet member => ?_⟩
    · have turned := (State.step_turn moved i).spoken (answers i) (speaks.spoken i)
      rw [← step_mode moved] at turned
      exact turned
    · have earlier (member : packet ∈ links.state.written) : ∃ i, Command.packet packet ∈
          ((links.calls (links.state.serverCall action)).server i).connections.flatten := by
        obtain ⟨i, said⟩ := speaks.written packet member
        exact ⟨i, PublicServer.connections_kept (answers i) said⟩
      rcases step_written moved with same | ⟨i, sent, standing, called, same⟩
      · exact earlier (same ▸ member)
      · have member : packet ∈ links.state.written ++ [sent] := same ▸ member
        rcases List.mem_append.mp member with before | now
        · exact earlier before
        · obtain rfl := List.mem_singleton.mp now
          have answer := answers i
          rw [called, callTo, if_pos rfl] at answer
          rw [called]
          exact ⟨i, PublicServer.connections_said answer⟩
  · refine ⟨fun i => ?_, fun packet member => ?_⟩
    · rw [state, server]
      exact speaks.spoken i
    · rw [server]
      exact speaks.written packet (state ▸ member)

theorem Uplinks.speaks_of_reach {capacity : Nat} (reach : Reachable (uplinks n capacity) links) :
    links.Sound ∧ links.Speaks := by
  apply reach.invariant
  · rintro start ⟨mode, rfl⟩
    refine ⟨(Uplinks.sound_of_reach (.start ⟨mode, rfl⟩)).1, fun i => ?_, fun packet member => ?_⟩
    · exact ⟨fun line none => (by cases none), fun up => (by cases up), rfl, trivial⟩
    · cases member
  · intro before action after ⟨sound, speaks⟩ _ stepped
    exact ⟨(sound.step stepped).1, speaks.step sound stepped⟩

/-- What every uploader tells the platform, connection by connection, whatever vehicles,
connections and responses do: rounds of logins and a logout, logins, and then packets. Only
the compliance modes log out, and no packet is sent before all their rounds are over. Every
packet written has been said on one of the connections. -/
theorem uplink_conversations {capacity : Nat} (reach : Reachable (uplinks n capacity) links)
    (i : Fin n) :
    (∀ line ∈ (links.server i).connections, line ∈ Conversation.conversation) ∧
    logouts (links.server i).connections ≤ logoutsOf links.state.mode ∧
    (∀ packet, .packet packet ∈ (links.server i).connections.flatten →
      logouts (links.server i).connections = logoutsOf links.state.mode) ∧
    ∀ packet ∈ links.state.written, ∃ j,
      .packet packet ∈ (links.server j).connections.flatten := by
  obtain ⟨-, speaks⟩ := Uplinks.speaks_of_reach reach
  obtain ⟨count, all⟩ := (speaks.spoken i).stage.leave
  exact ⟨(speaks.spoken i).spoken, count, all, speaks.written⟩

private def logsInOnce : List (Action 1) :=
  [.outside 0 .next, .outside 0 .next, .outside 0 (.answered .responseOk)]

def passesTest : List (Action 1) :=
  [.start 0, .push, .outside 0 .next, .outside 0 .connects, .outside 0 .next] ++
    (List.replicate loginRounds
      (logsInOnce ++ [.outside 0 .next, .outside 0 (.answered .responseOk)])).flatten ++
    logsInOnce ++
    [.outside 0 .next, .outside 0 .next, .upload 0 none, .accept (sampleRead .vehicleLogin),
      .service none, .service none, .upload 0 none, .upload 0 none, .sent 0]

omit [ByteBufferApi] in
theorem uplink_conversations_tested : ∃ (links : Uplinks 1) (line : List Command),
    (links.server 0).connections = [line] ∧ line.length = 12 ∧ line ∈ Conversation.conversation ∧
    logouts [line] = logoutsOf (some .vehicleCompliance) := by
  let := ByteBuffer.reference
  have initial : Reachable (uplinks 1 1) (.initial 1 1 (some .vehicleCompliance)) := .start ⟨_, rfl⟩
  obtain ⟨links, reach, single, ⟨sent, -, said⟩, mode⟩ := initial.exists_of_schedule
    (fun links => (links.server 0).connections.map List.length = [12] ∧
      (∃ packet ∈ links.state.written, .packet packet ∈ (links.server 0).connections.flatten) ∧
      links.state.mode = some .vehicleCompliance) (passesTest.map .forward) (by decide +kernel)
  obtain ⟨line, connections, size⟩ := List.map_eq_singleton_iff.mp single
  obtain ⟨spoken, -, complete, -⟩ := uplink_conversations reach 0
  rw [connections] at spoken complete said
  refine ⟨links, line, connections, size, spoken line (by simp), ?_⟩
  rw [← mode]
  exact complete sent said

end Runs

end MotorInfoUpload
