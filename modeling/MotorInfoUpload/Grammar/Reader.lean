/-! Readers that consume an input tape and copy part of it to an output tape,
and grammars that say what they may consume and what they keep of it. A reader
is correct for a grammar when it accepts exactly the grammar's words; the rules
below compose this along sequencing, branching on a value and bounded loops. -/

namespace MotorInfoUpload.Grammar

/-- How the state of a reader is seen as an input and an output tape. The
`ready` states are those in which its operations are used. -/
structure Tape (State Symbol : Type) where
  unread : State → List Symbol
  output : State → List Symbol
  ready : State → Prop

/-- A grammar relates a word of the input to what is kept of it. -/
abbrev Rule (Symbol : Type) := List Symbol → List Symbol → Prop

variable {State Symbol Error Value Result : Type} {tape : Tape State Symbol}

/-- The reader went from `before` to `after` over the word `word`, keeping `kept`. -/
structure Moved (tape : Tape State Symbol) (before after : State) (word kept : List Symbol) :
    Prop where
  input : tape.unread before = word ++ tape.unread after
  output : tape.output after = tape.output before ++ kept
  ready : tape.ready after

theorem Moved.refl (ready : tape.ready state) : Moved tape state state [] [] :=
  ⟨rfl, (List.append_nil _).symm, ready⟩

theorem Moved.trans (first : Moved tape before middle word₁ kept₁)
    (second : Moved tape middle after word₂ kept₂) :
    Moved tape before after (word₁ ++ word₂) (kept₁ ++ kept₂) where
  input := by rw [first.input, second.input, List.append_assoc]
  output := by rw [second.output, first.output, List.append_assoc]
  ready := second.ready

theorem Moved.unread_eq {word kept rest : List Symbol} (moved : Moved tape before after word kept)
    (split : tape.unread before = word ++ rest) : tape.unread after = rest :=
  List.append_cancel_left (moved.input.symm.trans split)

/-- `reader` accepts exactly the words of `grammar` and keeps what it says. -/
structure Reads (tape : Tape State Symbol) (grammar : Rule Symbol)
    (reader : State → Except Error State) : Prop where
  sound : ∀ {before after}, tape.ready before → reader before = .ok after →
    ∃ word kept, grammar word kept ∧ Moved tape before after word kept
  complete : ∀ {before word kept rest}, tape.ready before → grammar word kept →
    tape.unread before = word ++ rest →
    ∃ after, reader before = .ok after ∧ Moved tape before after word kept

theorem Reads.ready {before after : State} {reader : State → Except Error State}
    {grammar : Rule Symbol} (reads : Reads tape grammar reader) (ready : tape.ready before)
    (success : reader before = .ok after) : tape.ready after := by
  obtain ⟨word, kept, _, moved⟩ := reads.sound ready success
  exact moved.ready

/-- The same for a reader that also returns a value. -/
structure ReadsValue (tape : Tape State Symbol) (grammar : Value → Rule Symbol)
    (reader : State → Except Error (Value × State)) : Prop where
  sound : ∀ {before value after}, tape.ready before → reader before = .ok (value, after) →
    ∃ word kept, grammar value word kept ∧ Moved tape before after word kept
  complete : ∀ {before value word kept rest}, tape.ready before → grammar value word kept →
    tape.unread before = word ++ rest →
    ∃ after, reader before = .ok (value, after) ∧ Moved tape before after word kept

inductive Seq (first second : Rule Symbol) : Rule Symbol where
  | mk (head : first word₁ kept₁) (tail : second word₂ kept₂) :
      Seq first second (word₁ ++ word₂) (kept₁ ++ kept₂)

/-- `count` words one after another. -/
inductive Rep (grammar : Rule Symbol) : Nat → Rule Symbol where
  | nil : Rep grammar 0 [] []
  | cons (head : grammar word₁ kept₁) (tail : Rep grammar count word₂ kept₂) :
      Rep grammar (count + 1) (word₁ ++ word₂) (kept₁ ++ kept₂)

variable {word kept rest : List Symbol} {grammar other : Rule Symbol}

theorem Seq.of {word₁ word₂ kept₁ kept₂ : List Symbol} (head : grammar word₁ kept₁)
    (tail : other word₂ kept₂) (whole : word = word₁ ++ word₂) (kept_eq : kept = kept₁ ++ kept₂) :
    Seq grammar other word kept := by
  subst whole kept_eq
  exact .mk head tail

theorem bind_ok {first : Except Error Value} {second : Value → Except Error Result}
    (success : first >>= second = .ok result) :
    ∃ value, first = .ok value ∧ second value = .ok result := by
  cases first with
  | error error => cases success
  | ok value => exact ⟨value, rfl, success⟩

theorem Reads.congr {other : State → Except Error State} (reads : Reads tape grammar reader)
    (same : ∀ state, other state = reader state) : Reads tape grammar other where
  sound ready success := reads.sound ready (same _ ▸ success)
  complete ready derives split := by
    rw [same]
    exact reads.complete ready derives split

/-- Grammars that agree on every word have the same readers. -/
theorem Reads.iff {reader : State → Except Error State}
    (reads : Reads tape grammar reader)
    (same : ∀ word kept, grammar word kept ↔ other word kept) : Reads tape other reader where
  sound ready success := by
    obtain ⟨word, kept, derives, moved⟩ := reads.sound ready success
    exact ⟨word, kept, (same word kept).mp derives, moved⟩
  complete ready derives split := reads.complete ready ((same _ _).mpr derives) split

theorem Reads.skip : Reads tape (Rep grammar 0) (fun state => (.ok state : Except Error State)) where
  sound ready success := by
    cases success
    exact ⟨[], [], .nil, .refl ready⟩
  complete ready derives split := by
    cases derives
    exact ⟨_, rfl, .refl ready⟩

theorem Reads.seq {reader next : State → Except Error State}
    (first : Reads tape grammar reader) (second : Reads tape other next) :
    Reads tape (Seq grammar other) (fun state => reader state >>= next) where
  sound ready success := by
    obtain ⟨middle, started, ended⟩ := bind_ok success
    obtain ⟨word₁, kept₁, derives₁, moved₁⟩ := first.sound ready started
    obtain ⟨word₂, kept₂, derives₂, moved₂⟩ := second.sound moved₁.ready ended
    exact ⟨_, _, .mk derives₁ derives₂, moved₁.trans moved₂⟩
  complete ready derives split := by
    obtain ⟨derives₁, derives₂⟩ := derives
    rw [List.append_assoc] at split
    obtain ⟨middle, started, moved₁⟩ := first.complete ready derives₁ split
    obtain ⟨after, ended, moved₂⟩ := second.complete moved₁.ready derives₂ (moved₁.unread_eq split)
    exact ⟨after, by rw [started]; exact ended, moved₁.trans moved₂⟩

/-- Read a value and go on with the reader it selects. -/
theorem ReadsValue.seq {reader : State → Except Error (Value × State)}
    {next : Value → State → Except Error State} {others : Value → Rule Symbol}
    (first : ReadsValue tape grammars reader)
    (second : ∀ value, Reads tape (others value) (next value)) :
    Reads tape (fun word kept => ∃ value, Seq (grammars value) (others value) word kept)
      (fun state => reader state >>= fun result => next result.1 result.2) where
  sound ready success := by
    obtain ⟨⟨value, middle⟩, started, ended⟩ := bind_ok success
    obtain ⟨word₁, kept₁, derives₁, moved₁⟩ := first.sound ready started
    obtain ⟨word₂, kept₂, derives₂, moved₂⟩ := (second value).sound moved₁.ready ended
    exact ⟨_, _, ⟨value, .mk derives₁ derives₂⟩, moved₁.trans moved₂⟩
  complete ready derives split := by
    obtain ⟨value, derives₁, derives₂⟩ := derives
    rw [List.append_assoc] at split
    obtain ⟨middle, started, moved₁⟩ := first.complete ready derives₁ split
    obtain ⟨after, ended, moved₂⟩ :=
      (second value).complete moved₁.ready derives₂ (moved₁.unread_eq split)
    exact ⟨after, by rw [started]; exact ended, moved₁.trans moved₂⟩

theorem Reads.compute (computed : Except Error Value) {next : Value → State → Except Error State}
    {others : Value → Rule Symbol} (second : ∀ value, Reads tape (others value) (next value)) :
    Reads tape (fun word kept => ∃ value, computed = .ok value ∧ others value word kept)
      (fun state => computed >>= fun value => next value state) where
  sound ready success := by
    obtain ⟨value, started, ended⟩ := bind_ok success
    obtain ⟨word, kept, derives, moved⟩ := (second value).sound ready ended
    exact ⟨word, kept, ⟨value, started, derives⟩, moved⟩
  complete ready derives split := by
    obtain ⟨value, started, derives⟩ := derives
    obtain ⟨after, ended, moved⟩ := (second value).complete ready derives split
    exact ⟨after, by rw [started]; exact ended, moved⟩

theorem Reads.refuse {reader : State → Except Error State} (reads : Reads tape grammar reader)
    (bad : Prop) [Decidable bad] (error : Error) :
    Reads tape (fun word kept => ¬ bad ∧ grammar word kept)
      (fun state => if bad then .error error else reader state) where
  sound ready success := by
    split at success
    · cases success
    · rename_i good
      obtain ⟨word, kept, derives, moved⟩ := reads.sound ready success
      exact ⟨word, kept, ⟨good, derives⟩, moved⟩
  complete ready derives split := by
    obtain ⟨after, ended, moved⟩ := reads.complete ready derives.2 split
    exact ⟨after, by rw [if_neg derives.1]; exact ended, moved⟩

def iterate (reader : State → Except Error State) : Nat → State → Except Error State
  | 0, state => .ok state
  | rounds + 1, state => reader state >>= iterate reader rounds

theorem Reads.iterate {reader : State → Except Error State} (reads : Reads tape grammar reader)
    (rounds : Nat) : Reads tape (Rep grammar rounds) (iterate reader rounds) := by
  induction rounds with
  | zero => exact .skip
  | succ rounds ih =>
    refine (reads.seq ih).iff fun word kept => ⟨?_, ?_⟩
    · rintro ⟨head, tail⟩
      exact .cons head tail
    · intro derives
      cases derives with
      | cons head tail => exact .mk head tail

end MotorInfoUpload.Grammar
