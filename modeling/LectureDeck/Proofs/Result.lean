import Mathlib.Data.List.Induction
import Mathlib.Data.List.Perm.Basic

/-!
# Results

What follows from the success of a computation that may fail.
-/

namespace LectureDeck

variable {ε α β : Type}

/-- A computation succeeds if its first part does, and then the rest. -/
theorem bind_eq_ok {first : Except ε α} {rest : α → Except ε β} {result : β} :
    first >>= rest = .ok result ↔ ∃ middle, first = .ok middle ∧ rest middle = .ok result := by
  cases first with
  | error error => simp [bind, Except.bind]
  | ok middle => simp [bind, Except.bind]

/-- Two steps fail with an error if the first does, or if it succeeds and the second does. -/
theorem bind_eq_error {first : Except ε α} {rest : α → Except ε β} {error : ε} :
    first >>= rest = .error error ↔
      first = .error error ∨ ∃ middle, first = .ok middle ∧ rest middle = .error error := by
  cases first with
  | error found => simp [bind, Except.bind]
  | ok middle => simp [bind, Except.bind]

/-- What is said of an error does not matter to a success. -/
theorem mapError_eq_ok {f : ε → β} {first : Except ε α} {result : α} :
    first.mapError f = .ok result ↔ first = .ok result := by
  cases first with
  | error error =>
    constructor <;> intro same <;> cases same
  | ok value =>
    constructor <;> intro same <;> cases same <;> rfl

/-- A result is changed only where there is one. -/
theorem map_eq_ok {f : α → β} {first : Except ε α} {result : β} :
    first.map f = .ok result ↔ ∃ value, first = .ok value ∧ f value = result := by
  cases first <;> simp [Except.map]

/-- A value is its own result. -/
theorem pure_eq_ok {value result : α} : (pure value : Except ε α) = .ok result ↔ value = result :=
  ⟨Except.ok.inj, congrArg Except.ok⟩

/-- A computation that is seen to succeed succeeds. -/
theorem exists_of_any {first : Except ε α} {holds : α → Bool}
    (seen : first.toOption.any holds = true) : ∃ value, first = .ok value ∧ holds value = true := by
  cases first with
  | error error => contradiction
  | ok value => exact ⟨value, rfl, seen⟩

/-- The error of a computation, if it fails. -/
def error? : Except ε α → Option ε
  | .ok _ => none
  | .error error => some error

/-- The error of a computation is the one that it fails with. -/
theorem error?_eq_some {first : Except ε α} {error : ε} :
    error? first = some error ↔ first = .error error := by
  cases first with
  | ok value => exact ⟨nofun, nofun⟩
  | error found =>
    exact ⟨fun same => congrArg _ (Option.some.inj same), fun same => congrArg error? same⟩

/-- If a computation fails, its error is one of some. -/
def FailsOnly (known : ε → Prop) (result : Except ε α) : Prop :=
  ∀ error, result = .error error → known error

namespace FailsOnly

variable {known : ε → Prop} {first : Except ε α}

/-- What succeeds does not fail. -/
theorem ok (value : α) : FailsOnly known (.ok value) := nofun

/-- An error that is known is one of those that are allowed. -/
theorem error {error : ε} (one : known error) : FailsOnly known (.error error : Except ε α) := by
  rintro found ⟨⟩
  exact one

/-- Two steps fail only with known errors if each of them does. -/
theorem bind {rest : α → Except ε β} (earlier : FailsOnly known first)
    (later : ∀ value, FailsOnly known (rest value)) : FailsOnly known (first >>= rest) := by
  intro error failed
  rcases bind_eq_error.1 failed with failed | ⟨middle, -, failed⟩
  · exact earlier error failed
  · exact later middle error failed

/-- Changing a result makes no errors. -/
theorem map (f : α → β) (fails : FailsOnly known first) : FailsOnly known (first.map f) := by
  cases first with
  | error found => exact .error (fails found rfl)
  | ok value => exact ok _

/-- Steps over a list fail only with known errors if each of them does. -/
theorem foldlM {item : Type} {step : α → item → Except ε α}
    (each : ∀ value item, FailsOnly known (step value item)) (items : List item) (value : α) :
    FailsOnly known (items.foldlM step value) := by
  induction items generalizing value with
  | nil => exact ok value
  | cons item rest later =>
    rw [List.foldlM_cons]
    exact (each value item).bind later

end FailsOnly

/-- A computation on every element of a list fails on one of them, or succeeds on all. -/
theorem mapM_cases (f : α → Except ε β) (items : List α) :
    (∃ results, items.mapM f = .ok results ∧
        (∀ item ∈ items, ∃ result, f item = .ok result) ∧
        ∀ result, result ∈ results ↔ ∃ item ∈ items, f item = .ok result) ∨
      ∃ item ∈ items, ∃ error, f item = .error error ∧ items.mapM f = .error error := by
  induction items with
  | nil => exact .inl ⟨[], rfl, by simp, by simp⟩
  | cons item rest later =>
    rw [List.mapM_cons]
    cases first : f item with
    | error error => exact .inr ⟨item, List.mem_cons_self, error, first, rfl⟩
    | ok result =>
      rcases later with ⟨results, same, every, from_⟩ | ⟨other, member, error, failed, same⟩
      · refine .inl ⟨result :: results, by rw [same]; rfl, ?_, ?_⟩
        · rintro other (_ | ⟨_, member⟩)
          · exact ⟨result, first⟩
          · exact every other member
        · intro other
          simp [from_, first, eq_comm]
      · exact .inr ⟨other, List.mem_cons_of_mem _ member, error, failed, by rw [same]; rfl⟩

/-- What is computed on every element of a list is computed on one of them. -/
theorem exists_of_mem_mapM {f : α → Except ε β} {items : List α} {results : List β}
    (mapped : items.mapM f = .ok results) : ∀ result ∈ results, ∃ item ∈ items,
      f item = .ok result := by
  intro result member
  rcases mapM_cases f items with ⟨_, same, -, each⟩ | ⟨_, _, error, _, failed⟩
  · cases same.symm.trans mapped
    exact (each result).1 member
  · cases failed.symm.trans mapped

/-- A fold that may fail keeps in step with one that may not, if each of its steps does. -/
theorem foldlM_simulation {γ : Type} {step : β → α → Except ε β} {move : γ → α → γ}
    {relates : β → γ → Prop}
    (follows : ∀ {value item after state}, step value item = .ok after → relates value state →
      relates after (move state item))
    {items : List α} {first last : β} {start : γ} (folded : items.foldlM step first = .ok last)
    (related : relates first start) : relates last (items.foldl move start) := by
  induction items generalizing first start with
  | nil => exact Except.ok.inj folded ▸ related
  | cons item rest later =>
    rw [List.foldlM_cons, bind_eq_ok] at folded
    obtain ⟨middle, stepped, folded⟩ := folded
    exact later folded (follows stepped related)

/-- A fold that fails does so at one of its items, and succeeds on those before it. -/
theorem exists_of_foldlM_eq_error {step : β → α → Except ε β} {items : List α} {first : β}
    {error : ε} (failed : items.foldlM step first = .error error) :
    ∃ before item after middle, items = before ++ item :: after ∧
      before.foldlM step first = .ok middle ∧ step middle item = .error error := by
  induction items generalizing first with
  | nil => contradiction
  | cons item rest later =>
    rw [List.foldlM_cons, bind_eq_error] at failed
    rcases failed with failed | ⟨next, stepped, failed⟩
    · exact ⟨[], item, rest, first, rfl, rfl, failed⟩
    · obtain ⟨before, other, after, middle, rfl, passed, failed⟩ := later failed
      refine ⟨item :: before, other, after, middle, rfl, ?_, failed⟩
      rw [List.foldlM_cons, stepped]
      exact passed

/-- A fold over numbered items ends with the last item and its number. -/
theorem foldlM_zipIdx_concat (step : β → α × Nat → Except ε β) (first : β) (items : List α)
    (last : α) : (items ++ [last]).zipIdx.foldlM step first =
      items.zipIdx.foldlM step first >>= fun middle => step middle (last, items.length) := by
  rw [List.zipIdx_append, List.foldlM_append, List.zipIdx_singleton, Nat.zero_add]
  refine bind_congr fun middle => ?_
  rw [List.foldlM_cons]
  exact bind_pure _

/-- A fold over numbered items that fails does so at one of them, which has the number of those
before it. -/
theorem exists_of_foldlM_zipIdx_eq_error {step : β → α × Nat → Except ε β} {items : List α}
    {first : β} {error : ε} (failed : items.zipIdx.foldlM step first = .error error) :
    ∃ before item after middle, items = before ++ item :: after ∧
      before.zipIdx.foldlM step first = .ok middle ∧
      step middle (item, before.length) = .error error := by
  induction items using List.reverseRecOn with
  | nil => contradiction
  | append_singleton items last earlier =>
    rw [foldlM_zipIdx_concat] at failed
    rcases bind_eq_error.1 failed with failed | ⟨middle, passed, failed⟩
    · obtain ⟨before, item, after, middle, rfl, passed, failed⟩ := earlier failed
      exact ⟨before, item, after ++ [last], middle, List.append_assoc _ _ _, passed, failed⟩
    · exact ⟨items, last, [], middle, rfl, passed, failed⟩

/-- Whether two steps succeed can be told without their errors. -/
theorem toOption_bind (first : Except ε α) (rest : α → Except ε β) :
    (first >>= rest).toOption = first.toOption.bind fun value => (rest value).toOption := by
  cases first <;> rfl

/-- Whether a fold succeeds, and with what, does not depend on the order of its items if any two of
them may be exchanged. -/
theorem toOption_foldlM_of_perm {step : β → α → Except ε β} {items others : List α}
    (perm : items.Perm others) (exchange : ∀ item ∈ items, ∀ other ∈ items, ∀ value,
      (step value item >>= fun next => step next other).toOption =
        (step value other >>= fun next => step next item).toOption) (first : β) :
    (items.foldlM step first).toOption = (others.foldlM step first).toOption := by
  have folds (list : List α) (state : Option β) :
      (state.bind fun value => (list.foldlM step value).toOption) =
        list.foldl (fun state item => state.bind fun value =>
          (step value item).toOption) state := by
    induction list generalizing state with
    | nil => cases state <;> rfl
    | cons item rest later =>
      rw [List.foldl_cons, ← later, Option.bind_assoc]
      simp only [List.foldlM_cons, toOption_bind]
  calc (items.foldlM step first).toOption
    _ = items.foldl (fun state item => state.bind fun value => (step value item).toOption)
        (some first) := folds items (some first)
    _ = others.foldl (fun state item => state.bind fun value => (step value item).toOption)
        (some first) := by
      refine perm.foldl_eq' (fun item member other known state => ?_) _
      rw [Option.bind_assoc, Option.bind_assoc]
      simpa only [toOption_bind] using
        Option.bind_congr fun value _ => exchange item member other known value
    _ = (others.foldlM step first).toOption := (folds others (some first)).symm

/-- What every step of a fold preserves is preserved by the fold. -/
theorem foldlM_induction {step : β → α → Except ε β} {holds : β → Prop}
    (preserves : ∀ {value item after}, step value item = .ok after → holds value → holds after)
    {items : List α} {first last : β} (folded : items.foldlM step first = .ok last)
    (start : holds first) : holds last :=
  @foldlM_simulation ε α β Unit step (fun _ _ => ()) (fun value _ => holds value)
    (fun stepped => preserves stepped) items first last () folded start

section Mirrors

variable {φ κ : Type} {heard : ε → Option φ} {view : α → κ} {last : β → κ} {other : Except φ κ}
  {result : Except ε α} {rest : α → Except ε β}

/-- A computation does what another does as far as can be seen of it: it yields what is seen to be
the result of the other, and of the errors that are heard of it fails with that of the other. -/
structure Mirrors (heard : ε → Option φ) (view : α → κ) (other : Except φ κ)
    (result : Except ε α) : Prop where
  ok : ∀ value, result = .ok value → other = .ok (view value)
  error : ∀ {error fault}, result = .error error → heard error = some fault →
    other = .error fault

/-- A success mirrors the success with what is seen of its value. -/
theorem Mirrors.of_ok {value : α} (same : other = .ok (view value)) :
    Mirrors heard view other (.ok value) where
  ok := by
    rintro found ⟨⟩
    exact same
  error := nofun

/-- An error mirrors a computation that fails with whatever is heard of the error. -/
theorem Mirrors.of_error {error : ε} (same : ∀ fault ∈ heard error, other = .error fault) :
    Mirrors heard view other (.error error) where
  ok := nofun
  error := by
    rintro found fault ⟨⟩ hears
    exact same fault hears

/-- Nothing is heard of an error. -/
theorem Mirrors.of_unheard {error : ε} (unheard : heard error = none) :
    Mirrors heard view other (.error error) :=
  .of_error fun fault hears => by simp [unheard] at hears

/-- Steps mirror steps one after another. The later ones start from what is seen of the result of
the earlier ones. -/
theorem Mirrors.bind (does : κ → Except φ κ) (earlier : Mirrors heard view other result)
    (later : ∀ value, result = .ok value → Mirrors heard last (does (view value)) (rest value)) :
    Mirrors heard last (other >>= does) (result >>= rest) where
  ok := by
    intro value succeeds
    obtain ⟨middle, first, succeeds⟩ := bind_eq_ok.1 succeeds
    rw [earlier.ok middle first]
    exact (later middle first).ok value succeeds
  error := by
    intro error fault fails hears
    rcases bind_eq_error.1 fails with fails | ⟨middle, first, fails⟩
    · rw [earlier.error fails hears]
      rfl
    · rw [earlier.ok middle first]
      exact (later middle first).error fails hears

/-- Nothing is heard of the errors of a computation, and nothing new is seen when it succeeds. -/
theorem Mirrors.of_failsOnly {known : κ}
    (fails : FailsOnly (fun error => heard error = none) result)
    (still : ∀ value, result = .ok value → view value = known) :
    Mirrors heard view (.ok known) result := by
  cases result with
  | ok value => exact .of_ok (congrArg Except.ok (still value rfl).symm)
  | error error => exact .of_unheard (fails error rfl)

/-- A computation of whose first part nothing is heard is seen to do what the rest does. -/
theorem Mirrors.after (first : FailsOnly (fun error => heard error = none) result)
    (later : ∀ value, result = .ok value → Mirrors heard last other (rest value)) :
    Mirrors heard last other (result >>= rest) := by
  cases result with
  | ok value => exact later value rfl
  | error error => exact .of_unheard (first error rfl)

/-- A computation that is done then is seen to do what it was seen to do before. -/
theorem Mirrors.then {next : α → β} (earlier : Mirrors heard view other result)
    (same : ∀ value, last (next value) = view value) :
    Mirrors heard last other (do
      let value ← result
      return next value) := by
  rw [← bind_pure other]
  exact earlier.bind pure fun value _ => .of_ok (congrArg Except.ok (same value).symm)

/-- What is seen changed at the end of a computation. -/
theorem Mirrors.map (mirrors : Mirrors heard view other result) (change : κ → κ) :
    Mirrors heard (fun value => change (view value)) (do
      let known ← other
      return change known) result where
  ok := by
    intro value succeeds
    rw [mirrors.ok value succeeds]
    rfl
  error := by
    intro error fault fails hears
    rw [mirrors.error fails hears]
    rfl

/-- A fold none of whose steps is seen to do anything. -/
theorem Mirrors.foldlM {item : Type} {step : α → item → Except ε α}
    (still : ∀ value item, Mirrors heard view (.ok (view value)) (step value item))
    (items : List item) (first : α) :
    Mirrors heard view (.ok (view first)) (items.foldlM step first) := by
  induction items generalizing first with
  | nil => exact of_ok rfl
  | cons item rest later =>
    rw [List.foldlM_cons]
    exact (still first item).bind Except.ok fun value _ => later value

end Mirrors

section InStep

variable {κ δ : Type} {relates : α → β → Prop} {related : κ → δ → Prop} {result : Except ε α}
  {other : Except ε β}

/-- Two computations in step: both succeed, with results that are related, or both fail with the
same error. -/
inductive InStep (relates : α → β → Prop) : Except ε α → Except ε β → Prop
  | ok {value : α} {state : β} (holds : relates value state) :
      InStep relates (.ok value) (.ok state)
  | error (error : ε) : InStep relates (.error error) (.error error)

namespace InStep

/-- Computations stay in step when they go on from related results in step. -/
theorem bind {rest : α → Except ε κ} {next : β → Except ε δ} (first : InStep relates result other)
    (later : ∀ {value state}, relates value state → InStep related (rest value) (next state)) :
    InStep related (result >>= rest) (other >>= next) := by
  cases first with
  | ok holds => exact later holds
  | error error => exact .error error

/-- Computations that ask the same are in step if they are for both answers. -/
theorem ite {condition : Prop} [Decidable condition] {result' : Except ε α} {other' : Except ε β}
    (yes : condition → InStep relates result other)
    (no : ¬ condition → InStep relates result' other') :
    InStep relates (if condition then result else result')
      (if condition then other else other') := by
  by_cases holds : condition
  · rw [if_pos holds, if_pos holds]
    exact yes holds
  · rw [if_neg holds, if_neg holds]
    exact no holds

/-- A computation is in step with itself. -/
theorem refl (result : Except ε α) : InStep Eq result result := by
  cases result with
  | ok value => exact .ok rfl
  | error error => exact .error error

/-- Computations that begin alike are in step if they are after it. -/
theorem bind_same (start : Except ε κ) {rest : κ → Except ε α} {next : κ → Except ε β}
    (later : ∀ value, InStep relates (rest value) (next value)) :
    InStep relates (start >>= rest) (start >>= next) := by
  cases start with
  | ok value => exact later value
  | error error => exact .error error

/-- Folds over the same items are in step if each of their steps is. -/
theorem foldlM {item : Type} {step : α → item → Except ε α} {move : β → item → Except ε β}
    (each : ∀ {value state}, relates value state → ∀ item,
      InStep relates (step value item) (move state item)) (items : List item) {first : α}
    {start : β} (holds : relates first start) :
    InStep relates (items.foldlM step first) (items.foldlM move start) := by
  induction items generalizing first start with
  | nil => exact .ok holds
  | cons item rest later =>
    rw [List.foldlM_cons, List.foldlM_cons]
    exact (each holds item).bind fun moved => later moved

end InStep

end InStep

end LectureDeck
