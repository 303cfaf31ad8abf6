import Mathlib.Data.List.Basic
import Mathlib.Data.List.ReduceOption
import Mathlib.Data.List.Nodup

/-! A plain double-ended sequence and what executing its operations one at a time
does: elements are neither lost nor doubled, those put at the back leave in their
order, and one put at the front leaves next. Nothing here depends on the program
being verified. -/

namespace MotorInfoUpload.Machine

inductive DequeOperation (Element : Type) where
  | put (element : Element) (front : Bool)
  | take
  deriving DecidableEq, Repr

variable {Element Other : Type}

namespace DequeOperation

def perform (elements : List Element) :
    DequeOperation Element → Option (Option Element × List Element)
  | .put element front => some (none, if front then element :: elements else elements ++ [element])
  | .take => match elements with
    | [] => none
    | first :: rest => some (some first, rest)

/-- Operations one at a time, with the results in order and the elements left. -/
def execute (elements : List Element) :
    List (DequeOperation Element) → Option (List (Option Element) × List Element)
  | [] => some ([], elements)
  | operation :: later =>
    (operation.perform elements).bind fun (result, left) =>
      (execute left later).map fun (results, final) => (result :: results, final)

def puts (operations : List (DequeOperation Element)) : List Element :=
  operations.filterMap fun
    | .put element _ => some element
    | .take => none

def map (f : Element → Other) : DequeOperation Element → DequeOperation Other
  | .put element front => .put (f element) front
  | .take => .take

@[simp] theorem puts_nil : puts ([] : List (DequeOperation Element)) = [] := rfl

@[simp] theorem puts_put (element : Element) (front : Bool) :
    puts (.put element front :: later) = element :: puts later := rfl

@[simp] theorem puts_take : puts (.take :: later : List (DequeOperation Element)) = puts later := rfl

@[simp] theorem execute_nil (elements : List Element) :
    execute elements [] = some ([], elements) := rfl

@[simp] theorem execute_put (elements : List Element) (element : Element) (front : Bool) :
    execute elements (.put element front :: later) =
      (execute (if front then element :: elements else elements ++ [element]) later).map
        fun (results, final) => (none :: results, final) := rfl

@[simp] theorem execute_take_nil :
    execute [] (.take :: later : List (DequeOperation Element)) = none := rfl

@[simp] theorem execute_take_cons (first : Element) (rest : List Element) :
    execute (first :: rest) (.take :: later) =
      (execute rest later).map fun (results, final) => (some first :: results, final) := rfl

theorem execute_append (elements : List Element) (earlier later : List (DequeOperation Element)) :
    execute elements (earlier ++ later) = (execute elements earlier).bind fun (before, middle) =>
      (execute middle later).map fun (results, final) => (before ++ results, final) := by
  induction earlier generalizing elements with
  | nil => simp
  | cons operation rest ih =>
    cases operation with
    | put element front => simp [ih, Option.map_bind, Option.bind_map, Function.comp_def]
    | take =>
      cases elements with
      | nil => simp
      | cons first others => simp [ih, Option.map_bind, Option.bind_map, Function.comp_def]

theorem length_execute {elements final : List Element} {results : List (Option Element)}
    (executed : execute elements operations = some (results, final)) :
    results.length = operations.length := by
  induction operations generalizing elements results with
  | nil => simp_all
  | cons operation later ih =>
    obtain ⟨⟨result, left⟩, -, rest⟩ := Option.bind_eq_some_iff.mp executed
    obtain ⟨⟨others, last⟩, continued, same⟩ := Option.map_eq_some_iff.mp rest
    cases same
    simp [ih continued]

theorem execute_map (f : Element → Other) (elements : List Element)
    (operations : List (DequeOperation Element)) :
    execute (elements.map f) (operations.map (map f)) =
      (execute elements operations).map fun (results, final) =>
        (results.map (Option.map f), final.map f) := by
  induction operations generalizing elements with
  | nil => simp
  | cons operation later ih =>
    cases operation with
    | put element front =>
      have moved : (if front then f element :: elements.map f else elements.map f ++ [f element]) =
          (if front then element :: elements else elements ++ [element]).map f := by
        cases front <;> simp
      simp [map, moved, ih, Function.comp_def]
    | take =>
      cases elements with
      | nil => simp [map]
      | cons first rest => simp [map, ih, Function.comp_def]

/-- What has been put is what has been taken and what is left. -/
theorem execute_perm {elements final : List Element} {results : List (Option Element)}
    (executed : execute elements operations = some (results, final)) :
    (results.reduceOption ++ final).Perm (elements ++ puts operations) := by
  induction operations generalizing elements results with
  | nil => simp_all
  | cons operation later ih =>
    cases operation with
    | put element front =>
      obtain ⟨⟨others, last⟩, continued, same⟩ := Option.map_eq_some_iff.mp executed
      cases same
      have rest := ih continued
      cases front with
      | true => simpa using rest.trans List.perm_middle.symm
      | false => simpa using rest
    | take =>
      cases elements with
      | nil => simp at executed
      | cons first rest =>
        obtain ⟨⟨others, last⟩, continued, same⟩ := Option.map_eq_some_iff.mp executed
        cases same
        simpa using ih continued

/-- Elements put at the back leave in their order, whatever is put at the front. -/
theorem execute_order (back : Element → Bool) {elements final : List Element}
    {results : List (Option Element)}
    (fronts : ∀ element, .put element true ∈ operations → back element = false)
    (executed : execute elements operations = some (results, final)) :
    (results.reduceOption ++ final).filter back = (elements ++ puts operations).filter back := by
  induction operations generalizing elements results with
  | nil => simp_all
  | cons operation later ih =>
    have laterFronts : ∀ element, .put element true ∈ later → back element = false :=
      fun element member => fronts element (List.mem_cons_of_mem _ member)
    cases operation with
    | put element front =>
      obtain ⟨⟨others, last⟩, continued, same⟩ := Option.map_eq_some_iff.mp executed
      cases same
      have rest := ih laterFronts continued
      cases front with
      | true =>
        have skipped := fronts element List.mem_cons_self
        simpa [List.filter_cons, skipped] using rest
      | false => simpa using rest
    | take =>
      cases elements with
      | nil => simp at executed
      | cons first rest =>
        obtain ⟨⟨others, last⟩, continued, same⟩ := Option.map_eq_some_iff.mp executed
        cases same
        have rest := ih laterFronts continued
        simp only [List.filter_append] at rest
        simp [List.filter_cons, rest]

private theorem execute_backs {first : Element} {rest final : List Element}
    {results : List (Option Element)}
    (backs : ∀ operation ∈ operations, ∃ element, operation = .put element false)
    (executed : execute (first :: rest) operations = some (results, final)) :
    ∃ others, final = first :: others := by
  induction operations generalizing rest results with
  | nil =>
    cases executed
    exact ⟨rest, rfl⟩
  | cons operation later ih =>
    obtain ⟨element, same⟩ := backs operation List.mem_cons_self
    subst same
    obtain ⟨⟨others, last⟩, continued, same⟩ := Option.map_eq_some_iff.mp executed
    cases same
    exact ih (fun operation member => backs operation (List.mem_cons_of_mem _ member)) continued

/-- An element put at the front is what the next `take` returns, unless another
one is put at the front before it. -/
theorem execute_front {elements final : List Element} {results : List (Option Element)}
    {earlier between later : List (DequeOperation Element)}
    (backs : ∀ operation ∈ between, ∃ element, operation = .put element false)
    (executed : execute elements (earlier ++ .put element true :: between ++ .take :: later) =
      some (results, final)) :
    results[earlier.length + between.length + 1]? = some (some element) := by
  rw [List.append_assoc, execute_append] at executed
  obtain ⟨⟨before, middle⟩, first, rest⟩ := Option.bind_eq_some_iff.mp executed
  obtain ⟨⟨others, last⟩, continued, same⟩ := Option.map_eq_some_iff.mp rest
  cases same
  obtain ⟨⟨after, left⟩, second, same⟩ := Option.map_eq_some_iff.mp continued
  cases same
  change execute (element :: middle) (between ++ .take :: later) = _ at second
  rw [execute_append] at second
  obtain ⟨⟨during, held⟩, third, rest⟩ := Option.bind_eq_some_iff.mp second
  obtain ⟨kept, same⟩ := execute_backs backs third
  subst same
  obtain ⟨⟨ends, gone⟩, fourth, same⟩ := Option.map_eq_some_iff.mp rest
  cases same
  obtain ⟨⟨tail, stop⟩, -, same⟩ := Option.map_eq_some_iff.mp fourth
  cases same
  have sizeBefore := length_execute first
  have sizeDuring := length_execute third
  have place : earlier.length + between.length + 1 - before.length = during.length + 1 := by omega
  rw [List.getElem?_append_right (by omega), place]
  simp

/-- An element with the position and the kind of the operation that put it. -/
structure Numbered (Element : Type) where
  number : Nat
  front : Bool
  element : Element
  deriving DecidableEq, Repr

/-- The operations from position `first` on, each element put numbered by its operation. -/
def numberedFrom (first : Nat) :
    List (DequeOperation Element) → List (DequeOperation (Numbered Element))
  | [] => []
  | .put element front :: later => .put ⟨first, front, element⟩ front :: numberedFrom (first + 1) later
  | .take :: later => .take :: numberedFrom (first + 1) later

theorem map_numberedFrom (first : Nat) (operations : List (DequeOperation Element)) :
    (numberedFrom first operations).map (map Numbered.element) = operations := by
  induction operations generalizing first with
  | nil => rfl
  | cons operation later ih =>
    cases operation with
    | put element front => simp [numberedFrom, map, ih]
    | take => simp [numberedFrom, map, ih]

theorem length_numberedFrom (first : Nat) (operations : List (DequeOperation Element)) :
    (numberedFrom first operations).length = operations.length := by
  induction operations generalizing first with
  | nil => rfl
  | cons operation later ih => cases operation <;> simp [numberedFrom, ih]

theorem numberedFrom_append (first : Nat) (earlier later : List (DequeOperation Element)) :
    numberedFrom first (earlier ++ later) =
      numberedFrom first earlier ++ numberedFrom (first + earlier.length) later := by
  induction earlier generalizing first with
  | nil => rfl
  | cons operation rest ih =>
    have shifted : first + 1 + rest.length = first + (rest.length + 1) := by omega
    cases operation <;> simp [numberedFrom, ih, shifted]

theorem le_number (member : entry ∈ puts (numberedFrom first operations)) :
    first ≤ entry.number := by
  induction operations generalizing first with
  | nil => simp [numberedFrom] at member
  | cons operation later ih =>
    cases operation with
    | put element front =>
      rcases List.mem_cons.mp member with same | elsewhere
      · subst same
        exact Nat.le_refl _
      · exact Nat.le_of_succ_le (ih elsewhere)
    | take => exact Nat.le_of_succ_le (ih member)

theorem nodup_numberedFrom (first : Nat) (operations : List (DequeOperation Element)) :
    ((puts (numberedFrom first operations)).map Numbered.number).Nodup := by
  induction operations generalizing first with
  | nil => simp [numberedFrom]
  | cons operation later ih =>
    cases operation with
    | put element front =>
      simp only [numberedFrom, puts_put, List.map_cons, List.nodup_cons]
      refine ⟨fun member => ?_, ih _⟩
      obtain ⟨entry, found, same⟩ := List.mem_map.mp member
      have above := le_number found
      omega
    | take => exact ih _

theorem front_of_mem (member : .put entry front ∈ numberedFrom first operations) :
    entry.front = front := by
  induction operations generalizing first with
  | nil => simp [numberedFrom] at member
  | cons operation later ih =>
    cases operation with
    | put element front =>
      rcases List.mem_cons.mp member with same | elsewhere
      · cases same
        rfl
      · exact ih elsewhere
    | take =>
      rcases List.mem_cons.mp member with same | elsewhere
      · cases same
      · exact ih elsewhere

theorem back_numberedFrom (backs : ∀ operation ∈ operations, ∃ element : Element,
    operation = .put element false) :
    ∀ operation ∈ numberedFrom first operations, ∃ entry, operation = .put entry false := by
  induction operations generalizing first with
  | nil => simp [numberedFrom]
  | cons operation later ih =>
    obtain ⟨element, same⟩ := backs operation List.mem_cons_self
    subst same
    intro operation member
    rcases List.mem_cons.mp member with same | elsewhere
    · exact ⟨_, same⟩
    · exact ih (fun other found => backs other (List.mem_cons_of_mem _ found)) operation elsewhere

section Empty

variable {operations : List (DequeOperation Element)} {results : List (Option (Numbered Element))}
  {left : List (Numbered Element)}

/-- The numbers change nothing in what operations on an empty sequence do. -/
theorem exists_numbered {plain : List (Option Element)} {final : List Element}
    (executed : execute [] operations = some (plain, final)) :
    ∃ results left, execute [] (numberedFrom 0 operations) = some (results, left) ∧
      results.map (Option.map Numbered.element) = plain ∧ left.map Numbered.element = final := by
  have forgotten := execute_map Numbered.element [] (numberedFrom 0 operations)
  rw [map_numberedFrom, List.map_nil, executed] at forgotten
  obtain ⟨⟨results, left⟩, numbered, same⟩ := Option.map_eq_some_iff.mp forgotten.symm
  cases same
  exact ⟨results, left, numbered, rfl, rfl⟩

theorem taken_once (executed : execute [] (numberedFrom 0 operations) = some (results, left)) :
    (results.reduceOption ++ left).Perm (puts (numberedFrom 0 operations)) ∧
      ((results.reduceOption ++ left).map Numbered.number).Nodup := by
  have same := execute_perm executed
  constructor
  · exact same
  · exact (same.map Numbered.number).nodup_iff.mpr (nodup_numberedFrom 0 operations)

theorem taken_in_order
    (executed : execute [] (numberedFrom 0 operations) = some (results, left)) :
    (results.reduceOption ++ left).filter (fun entry => !entry.front) =
      (puts (numberedFrom 0 operations)).filter fun entry => !entry.front := by
  refine execute_order _ ?_ executed
  intro entry member
  simp [front_of_mem member]

theorem front_taken_next {element : Element} {earlier between later : List (DequeOperation Element)}
    (backs : ∀ operation ∈ between, ∃ element, operation = .put element false)
    (executed : execute [] (numberedFrom 0 (earlier ++ .put element true :: between ++ .take :: later)) =
      some (results, left)) :
    results[earlier.length + between.length + 1]? = some (some ⟨earlier.length, true, element⟩) := by
  simp only [List.append_assoc, List.cons_append, numberedFrom_append, numberedFrom,
    Nat.zero_add] at executed
  rw [← List.cons_append, ← List.append_assoc] at executed
  have next := execute_front (back_numberedFrom backs) executed
  simpa only [length_numberedFrom] using next

end Empty

end DequeOperation

end MotorInfoUpload.Machine
