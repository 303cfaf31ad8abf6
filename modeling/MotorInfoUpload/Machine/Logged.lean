namespace MotorInfoUpload.Machine

structure Logged (Entry Error Value : Type) where
  log : List Entry
  result : Except Error Value

namespace Logged

variable {Entry Error Value Result : Type}

def quiet (result : Except Error Value) : Logged Entry Error Value := ⟨[], result⟩

def after (log : List Entry) (logged : Logged Entry Error Value) : Logged Entry Error Value :=
  ⟨log ++ logged.log, logged.result⟩

def mapError (handler : Error → Error) (logged : Logged Entry Error Value) :
    Logged Entry Error Value := ⟨logged.log, logged.result.mapError handler⟩

def followedBy (first : Logged Entry Error Value) (next : Value → Logged Entry Error Result) :
    Logged Entry Error Result :=
  match first.result with
  | .ok value => (next value).after first.log
  | .error error => ⟨first.log, .error error⟩

instance : Monad (Logged Entry Error) where
  pure value := quiet (.ok value)
  bind := followedBy

@[simp] theorem result_quiet (result : Except Error Value) :
    (quiet result : Logged Entry Error Value).result = result := rfl

@[simp] theorem result_pure (value : Value) :
    (pure value : Logged Entry Error Value).result = .ok value := rfl

@[simp] theorem result_bind (first : Logged Entry Error Value)
    (next : Value → Logged Entry Error Result) :
    (first >>= next).result = first.result >>= fun value => (next value).result := by
  change (first.followedBy next).result = _
  unfold followedBy
  cases first.result <;> rfl

theorem mapError_ok {handler : Error → Error} {logged : Logged Entry Error Value} :
    (logged.mapError handler).result = .ok value ↔ logged.result = .ok value := by
  obtain ⟨log, result⟩ := logged
  cases result with
  | ok done => exact Iff.rfl
  | error earlier =>
    constructor
    · intro same
      cases same
    · intro same
      cases same

theorem mapError_error {handler : Error → Error} {logged : Logged Entry Error Value} :
    (logged.mapError handler).result = .error error ↔
      ∃ earlier, logged.result = .error earlier ∧ handler earlier = error := by
  obtain ⟨log, result⟩ := logged
  cases result with
  | ok done =>
    constructor
    · intro same
      cases same
    · rintro ⟨earlier, same, _⟩
      cases same
  | error earlier =>
    constructor
    · intro same
      exact ⟨earlier, rfl, Except.error.inj same⟩
    · rintro ⟨_, same, rfl⟩
      cases same
      rfl

def Each (property : Entry → Prop) (logged : Logged Entry Error Value) : Prop :=
  ∀ entry ∈ logged.log, property entry

variable {property : Entry → Prop}

theorem each_quiet (result : Except Error Value) :
    (quiet result : Logged Entry Error Value).Each property := fun _ none => by cases none

theorem Each.after {log : List Entry} {logged : Logged Entry Error Value}
    (earlier : ∀ entry ∈ log, property entry)
    (each : logged.Each property) : (logged.after log).Each property := by
  intro entry member
  rcases List.mem_append.mp member with before | later
  · exact earlier entry before
  · exact each entry later

theorem Each.mapError {handler : Error → Error} {logged : Logged Entry Error Value}
    (each : logged.Each property) : (logged.mapError handler).Each property := each

theorem Each.bind {first : Logged Entry Error Value} {next : Value → Logged Entry Error Result}
    (each : first.Each property)
    (rest : ∀ value, first.result = .ok value → (next value).Each property) :
    (first >>= next).Each property := by
  change (first.followedBy next).Each property
  unfold followedBy
  split
  · rename_i value succeeded
    exact (rest value succeeded).after each
  · exact each

end Logged

end MotorInfoUpload.Machine
