import LectureDeck.Sheet.Publish
import Mathlib.Data.List.Infix

/-!
# Histories of published sheets

A session is published again and again: each attempt is to replace the sheet that was published
last, and the remote store may fail any post. Whatever the store does, the sheets that it accepts
are for one file, and the kinds of the questions of one stand at the start of those of every later
one (`LectureDeck.Published.isOrderly_history`).
-/

namespace LectureDeck

namespace SheetAttributes

variable {W : Type} {previous current later : SheetAttributes W}

/-- The words for the kinds of the questions. -/
def kinds (sheet : SheetAttributes W) : List String := sheet.questions.map SheetQuestion.kind

/-- A sheet is for the same file as another and has the same kinds of questions, perhaps with more
after them. -/
def Continues (current previous : SheetAttributes W) : Prop :=
  previous.file = current.file ∧ previous.kinds <+: current.kinds

theorem Continues.refl (sheet : SheetAttributes W) : sheet.Continues sheet :=
  ⟨rfl, List.prefix_rfl⟩

theorem Continues.trans (second : later.Continues current) (first : current.Continues previous) :
    later.Continues previous :=
  ⟨first.1.trans second.1, first.2.trans second.2⟩

/-- No kind has changed if the kinds agree as far as both lists of questions go. -/
theorem firstKindChange_eq_none_iff {previous current : List (SheetQuestion W)} :
    firstKindChange previous current = none ↔
      ∀ pair ∈ previous.zip current, pair.1.kind = pair.2.kind := by
  unfold firstKindChange
  rw [List.findSome?_eq_none_iff]
  refine forall₂_congr fun pair _ => ?_
  dsimp only
  split
  · rename_i same
    exact iff_of_true rfl same
  · rename_i other
    exact iff_of_false nofun other

/-- Lists agree as far as the shorter one goes if that stands at the start of the other. -/
theorem forall_zip_iff_prefix {previous current : List (SheetQuestion W)}
    (within : previous.length ≤ current.length) :
    (∀ pair ∈ previous.zip current, pair.1.kind = pair.2.kind) ↔
      previous.map SheetQuestion.kind <+: current.map SheetQuestion.kind := by
  induction previous generalizing current with
  | nil => simp
  | cons old olds later =>
    cases current with
    | nil => exact absurd within (Nat.not_succ_le_zero _)
    | cons new news =>
      rw [List.zip_cons_cons, List.forall_mem_cons, List.map_cons, List.map_cons,
        List.cons_prefix_cons, later (Nat.le_of_succ_le_succ within)]

/-- **A sheet may replace another if and only if it continues it.** -/
theorem checkReplaces_eq_ok_iff :
    previous.checkReplaces current = .ok () ↔ current.Continues previous := by
  unfold checkReplaces
  by_cases same : previous.file = current.file
  · rw [if_neg (not_not_intro same)]
    by_cases removed : current.questions.length < previous.questions.length
    · rw [if_pos removed]
      refine iff_of_false nofun fun ⟨_, start⟩ => ?_
      have within := start.length_le
      simp only [kinds, List.length_map] at within
      exact absurd removed (Nat.not_lt.2 within)
    · rw [if_neg removed, Continues, kinds, kinds,
        ← forall_zip_iff_prefix (Nat.not_lt.1 removed), ← firstKindChange_eq_none_iff]
      cases firstKindChange previous.questions current.questions with
      | none => exact iff_of_true rfl ⟨same, rfl⟩
      | some fault => exact iff_of_false nofun fun ⟨_, absent⟩ => nomatch absent
  · rw [if_pos same]
    exact iff_of_false nofun fun continues => same continues.1

/-- A sheet that does not continue another is refused for a reason. -/
theorem exists_fault_or_continues (previous current : SheetAttributes W) :
    (∃ fault, previous.checkReplaces current = .error fault) ∨ current.Continues previous := by
  rw [← checkReplaces_eq_ok_iff]
  cases previous.checkReplaces current with
  | error fault => exact .inl ⟨fault, rfl⟩
  | ok => exact .inr rfl

end SheetAttributes

/-- A sheet is refused by the one before, or continues it and is sent. -/
theorem preparePost_cases (session : String) (previous : Option (SheetAttributes W))
    (sheet : SheetAttributes W) :
    (∃ old fault, previous = some old ∧ old.checkReplaces sheet = .error fault ∧
      preparePost session previous sheet = .error (.refused session fault)) ∨
    ((∀ old ∈ previous, sheet.Continues old) ∧
      preparePost session previous sheet = .ok ⟨session, sheet⟩) := by
  cases previous with
  | none => exact .inr ⟨nofun, rfl⟩
  | some old =>
    rw [preparePost]
    rcases old.exists_fault_or_continues sheet with ⟨fault, refuses⟩ | continues
    · rw [refuses]
      exact .inl ⟨old, fault, rfl, refuses, rfl⟩
    · rw [SheetAttributes.checkReplaces_eq_ok_iff.2 continues]
      exact .inr ⟨fun _ same => Option.some.inj same ▸ continues, rfl⟩

/-- A post and what the remote store answered. -/
structure Exchange (W R : Type) where
  post : Post W
  answer : Except String R

variable {W R σ : Type}

/-- A remote store that keeps all its exchanges beside a state of its own. -/
def recording (remote : Post W → StateM σ (Except String R)) (post : Post W) :
    StateM (σ × List (Exchange W R)) (Except String R) := fun (state, exchanges) =>
  let (answer, state) := (remote post).run state
  (answer, (state, exchanges ++ [⟨post, answer⟩]))

/-- An attempt to publish a sheet, and what came of it. -/
structure Attempt (W R : Type) where
  /-- The sheet that was published before the attempt. -/
  previous : Option (SheetAttributes W)
  sheet : SheetAttributes W
  /-- What went to the remote store and came back. -/
  exchanges : List (Exchange W R)
  outcome : Except PublishError R
  /-- The sheet that is published after the attempt. -/
  published : Option (SheetAttributes W)

namespace Attempt

def isSuccess (attempt : Attempt W R) : Bool := attempt.outcome.toBool

/-- The sheets that the remote store accepted. -/
def accepted (attempt : Attempt W R) : List (SheetAttributes W) :=
  (attempt.exchanges.filter fun exchange => exchange.answer.toBool).map fun exchange =>
    exchange.post.sheet

/-- The sheet before an attempt keeps the new one from being published. -/
def IsRefused (attempt : Attempt W R) : Prop :=
  ∃ previous fault, attempt.previous = some previous ∧
    previous.checkReplaces attempt.sheet = .error fault

/-- What may come of an attempt. -/
inductive Ends (session : String) : Attempt W R → Prop
  | refused {previous sheet : SheetAttributes W} {fault : RepublishFault}
      (refuses : previous.checkReplaces sheet = .error fault) :
      Ends session ⟨some previous, sheet, [], .error (.refused session fault), some previous⟩
  | failed {previous : Option (SheetAttributes W)} {sheet : SheetAttributes W}
      (continues : ∀ old ∈ previous, sheet.Continues old) (reason : String) :
      Ends session ⟨previous, sheet, [⟨⟨session, sheet⟩, .error reason⟩],
        .error (.failed session reason), previous⟩
  | succeeded {previous : Option (SheetAttributes W)} {sheet : SheetAttributes W}
      (continues : ∀ old ∈ previous, sheet.Continues old) (answer : R) :
      Ends session ⟨previous, sheet, [⟨⟨session, sheet⟩, .ok answer⟩], .ok answer, some sheet⟩

variable {session : String} {attempt : Attempt W R}

/-- Nothing is sent exactly if the sheet is refused. -/
theorem Ends.exchanges_eq_nil_iff (ends : attempt.Ends session) :
    attempt.exchanges = [] ↔ attempt.IsRefused := by
  have allowed {previous : Option (SheetAttributes W)} {sheet : SheetAttributes W}
      {exchanges outcome published} (continues : ∀ old ∈ previous, sheet.Continues old) :
      ¬ IsRefused (R := R) ⟨previous, sheet, exchanges, outcome, published⟩ :=
    fun ⟨old, fault, known, refuses⟩ => by
      rw [SheetAttributes.checkReplaces_eq_ok_iff.2 (continues old known)] at refuses
      nomatch refuses
  cases ends with
  | refused refuses => exact iff_of_true rfl ⟨_, _, rfl, refuses⟩
  | failed continues => exact iff_of_false nofun (allowed continues)
  | succeeded continues => exact iff_of_false nofun (allowed continues)

/-- A sheet that is not refused is sent once. -/
theorem Ends.exists_exchange (ends : attempt.Ends session) (allowed : ¬ attempt.IsRefused) :
    ∃ answer, attempt.exchanges = [⟨⟨session, attempt.sheet⟩, answer⟩] := by
  cases ends with
  | refused refuses => exact absurd ⟨_, _, rfl, refuses⟩ allowed
  | failed => exact ⟨_, rfl⟩
  | succeeded => exact ⟨_, rfl⟩

/-- Only success changes what is published. -/
theorem Ends.published_eq (ends : attempt.Ends session) :
    attempt.published = if attempt.isSuccess then some attempt.sheet else attempt.previous := by
  cases ends <;> rfl

/-- The sheets of the attempts that succeed. -/
def successes (attempts : List (Attempt W R)) : List (SheetAttributes W) :=
  (attempts.filter isSuccess).map sheet

theorem successes_cons (first : Attempt W R) (rest : List (Attempt W R)) :
    successes (first :: rest) =
      if first.isSuccess then first.sheet :: successes rest else successes rest := by
  unfold successes
  cases success : first.isSuccess <;> simp [success]

/-- What the remote store accepts in an attempt is its sheet, if it succeeds. -/
theorem Ends.accepted_eq (ends : attempt.Ends session) :
    attempt.accepted = if attempt.isSuccess then [attempt.sheet] else [] := by
  cases ends <;> rfl

/-- What the remote store accepts in all is the sheets of the attempts that succeed. -/
theorem flatMap_accepted {attempts : List (Attempt W R)}
    (ends : ∀ attempt ∈ attempts, attempt.Ends session) :
    attempts.flatMap accepted = successes attempts := by
  induction attempts with
  | nil => rfl
  | cons first rest later =>
    have rest_eq := later fun attempt mem => ends attempt (List.mem_cons_of_mem _ mem)
    rw [List.flatMap_cons, (ends first List.mem_cons_self).accepted_eq, rest_eq, successes_cons]
    cases first.isSuccess <;> rfl

/-- Sheets that continue one another after an attempt do so with the sheet of the attempt and the
one before it. -/
theorem Ends.pairwise_successes_cons {rest : List (Attempt W R)} (ends : attempt.Ends session)
    (chain : (attempt.published.toList ++ successes rest).Pairwise
      fun earlier later => later.Continues earlier) :
    (attempt.previous.toList ++ successes (attempt :: rest)).Pairwise
      fun earlier later => later.Continues earlier := by
  cases ends with
  | refused => exact chain
  | failed => exact chain
  | @succeeded previous sheet continues answer =>
    cases previous with
    | none => exact chain
    | some old =>
      have first := continues old rfl
      refine List.pairwise_cons.2 ⟨fun later mem => ?_, chain⟩
      rcases List.mem_cons.1 mem with rfl | mem
      · exact first
      · exact ((List.pairwise_cons.1 chain).1 later mem).trans first

/-- Attempts, first to last, to replace what the last of them that succeeded has published. -/
structure IsOrderly (session : String) (attempts : List (Attempt W R)) : Prop where
  /-- Each is to replace the sheet of the last success before it. -/
  previous_eq {before after : List (Attempt W R)} {attempt : Attempt W R}
    (split : attempts = before ++ attempt :: after) :
    attempt.previous = (successes before).getLast?
  /-- Nothing is sent exactly if the sheet is refused. -/
  refused {attempt : Attempt W R} (mem : attempt ∈ attempts) :
    attempt.exchanges = [] ↔ attempt.IsRefused
  /-- A sheet that is not refused is sent once. -/
  sent {attempt : Attempt W R} (mem : attempt ∈ attempts) (allowed : ¬ attempt.IsRefused) :
    ∃ answer, attempt.exchanges = [⟨⟨session, attempt.sheet⟩, answer⟩]
  /-- Only success changes what is published. -/
  published_eq {attempt : Attempt W R} (mem : attempt ∈ attempts) :
    attempt.published = if attempt.isSuccess then some attempt.sheet else attempt.previous
  /-- What the remote store accepts is the sheets of the attempts that succeed. -/
  accepted_eq : attempts.flatMap accepted = successes attempts
  /-- Those sheets are for one file, and the kinds of each stand at the start of those of every
  later one. -/
  continues : (successes attempts).Pairwise fun earlier later => later.Continues earlier

end Attempt

namespace Published

open Attempt

/-- The attempts to publish sheets one after another in a session. -/
def history (remote : Post W → StateM σ (Except String R)) (session : String) :
    Published W → σ → List (SheetAttributes W) → List (Attempt W R)
  | _, _, [] => []
  | published, state, sheet :: rest =>
    let ((outcome, after), (state, exchanges)) :=
      (published.attemptBy (recording remote) session false sheet).run (state, [])
    ⟨published.get? session, sheet, exchanges, outcome, after.get? session⟩ ::
      history remote session after state rest

variable {remote : Post W → StateM σ (Except String R)} {session : String}

theorem get?_put (published : Published W) (session : String) (sheet : SheetAttributes W) :
    (published.put session sheet).get? session = some sheet :=
  List.lookup_cons_self

theorem run_recording (post : Post W) (state : σ) (exchanges : List (Exchange W R)) :
    (recording remote post).run (state, exchanges) =
      pure (((remote post).run state).1, ((remote post).run state).2,
        exchanges ++ [⟨post, ((remote post).run state).1⟩]) :=
  rfl

/-- A sheet that may replace the one before is sent once, and published if the store answers. -/
theorem run_attemptBy_of_ok {published : Published W} {state : σ} {sheet : SheetAttributes W}
    (allowed : preparePost session (published.get? session) sheet = .ok ⟨session, sheet⟩) :
    (published.attemptBy (recording remote) session false sheet).run (state, []) =
      pure (match (remote ⟨session, sheet⟩).run state with
        | (.ok answer, next) =>
          ((.ok answer, published.put session sheet), next, [⟨⟨session, sheet⟩, .ok answer⟩])
        | (.error reason, next) =>
          ((.error (.failed session reason), published), next,
            [⟨⟨session, sheet⟩, .error reason⟩])) := by
  rcases answers : (remote ⟨session, sheet⟩).run state with ⟨reason | answer, next⟩ <;>
    simp [attemptBy, publish, replaced, allowed, run_recording, answers]

/-- Nothing is sent of a sheet that may not replace the one before. -/
theorem run_attemptBy_of_error {published : Published W} {state : σ} {sheet : SheetAttributes W}
    {error : PublishError}
    (refused : preparePost session (published.get? session) sheet = .error error) :
    (published.attemptBy (recording remote) session false sheet).run (state, []) =
      pure ((.error error, published), state, []) := by
  simp [attemptBy, publish, replaced, refused]

/-- The first attempt of a history, and those that follow. -/
theorem exists_history_cons (remote : Post W → StateM σ (Except String R)) (session : String)
    (published : Published W) (state : σ) (sheet : SheetAttributes W)
    (rest : List (SheetAttributes W)) :
    ∃ (attempt : Attempt W R) (after : Published W) (next : σ), attempt.Ends session ∧
      attempt.previous = published.get? session ∧ attempt.sheet = sheet ∧
      attempt.published = after.get? session ∧
      published.history remote session state (sheet :: rest) =
        attempt :: after.history remote session next rest := by
  rcases preparePost_cases session (published.get? session) sheet with
    ⟨old, fault, known, refuses, refused⟩ | ⟨continues, allowed⟩
  · refine ⟨_, published, state, .refused refuses, known.symm, rfl, known.symm, ?_⟩
    rw [history, run_attemptBy_of_error refused, ← known]
    rfl
  · rcases answers : (remote ⟨session, sheet⟩).run state with ⟨reason | answer, next⟩
    · refine ⟨_, published, next, .failed continues reason, rfl, rfl, rfl, ?_⟩
      rw [history, run_attemptBy_of_ok allowed, answers]
      rfl
    · refine ⟨_, published.put session sheet, next, .succeeded continues answer, rfl, rfl,
        (get?_put published session sheet).symm, ?_⟩
      rw [history, run_attemptBy_of_ok allowed, answers, ← get?_put published session sheet]
      rfl

/-- The attempts of a history are at the sheets, in order. -/
theorem map_sheet_history (published : Published W) (state : σ)
    (sheets : List (SheetAttributes W)) :
    (published.history remote session state sheets).map Attempt.sheet = sheets := by
  induction sheets generalizing published state with
  | nil => rfl
  | cons sheet rest later =>
    obtain ⟨attempt, after, next, -, -, same, -, history_eq⟩ :=
      exists_history_cons remote session published state sheet rest
    rw [history_eq, List.map_cons, later, same]

/-- Every attempt of a history ends. -/
theorem ends_of_mem_history {published : Published W} {state : σ}
    {sheets : List (SheetAttributes W)} {attempt : Attempt W R}
    (mem : attempt ∈ published.history remote session state sheets) : attempt.Ends session := by
  induction sheets generalizing published state with
  | nil => nomatch mem
  | cons sheet rest later =>
    obtain ⟨first, after, next, ends, -, -, -, history_eq⟩ :=
      exists_history_cons remote session published state sheet rest
    rw [history_eq, List.mem_cons] at mem
    rcases mem with rfl | mem
    · exact ends
    · exact later mem

/-- An attempt of a history is to replace the sheet of the last success before it, or the one
published before the history if there is none. -/
theorem previous_eq_of_history {published : Published W} {state : σ}
    {sheets : List (SheetAttributes W)} {before after : List (Attempt W R)}
    {attempt : Attempt W R}
    (split : published.history remote session state sheets = before ++ attempt :: after) :
    attempt.previous = (successes before).getLast?.or (published.get? session) := by
  induction before generalizing published state sheets with
  | nil =>
    cases sheets with
    | nil => nomatch split
    | cons sheet rest =>
      obtain ⟨first, _, _, -, previous, -, -, history_eq⟩ :=
        exists_history_cons remote session published state sheet rest
      rw [history_eq] at split
      exact (List.cons.inj split).1 ▸ previous
  | cons earlier before later =>
    cases sheets with
    | nil => nomatch split
    | cons sheet rest =>
      obtain ⟨first, next, _, ends, previous, -, published_eq, history_eq⟩ :=
        exists_history_cons remote session published state sheet rest
      rw [history_eq, List.cons_append] at split
      obtain ⟨rfl, split_rest⟩ := List.cons.inj split
      rw [later split_rest, ← published_eq, ← previous, ends.published_eq, successes_cons]
      cases first.isSuccess with
      | false => rfl
      | true => simp [List.getLast?_cons]

/-- The sheets of the successful attempts of a history, after the one published before it,
continue one another. -/
theorem pairwise_history (published : Published W) (state : σ)
    (sheets : List (SheetAttributes W)) :
    ((published.get? session).toList ++
      successes (published.history remote session state sheets)).Pairwise
        fun earlier later => later.Continues earlier := by
  induction sheets generalizing published state with
  | nil => cases published.get? session <;> simp [history, successes]
  | cons sheet rest later =>
    obtain ⟨first, after, next, ends, previous, -, published_eq, history_eq⟩ :=
      exists_history_cons remote session published state sheet rest
    have chain := later after next
    rw [← published_eq] at chain
    rw [history_eq, ← previous]
    exact ends.pairwise_successes_cons chain

/-- **Sheets are published in order.** Whatever the remote store does, the attempts to publish
sheets in a session one after another are orderly. -/
theorem isOrderly_history (remote : Post W → StateM σ (Except String R)) (session : String)
    (state : σ) (sheets : List (SheetAttributes W)) :
    let attempts := ({} : Published W).history remote session state sheets
    attempts.map Attempt.sheet = sheets ∧ IsOrderly session attempts where
  left := map_sheet_history {} state sheets
  right :=
    { previous_eq := fun split => (previous_eq_of_history split).trans Option.or_none
      refused := fun mem => (ends_of_mem_history mem).exchanges_eq_nil_iff
      sent := fun mem => (ends_of_mem_history mem).exists_exchange
      published_eq := fun mem => (ends_of_mem_history mem).published_eq
      accepted_eq := flatMap_accepted fun _ mem => ends_of_mem_history mem
      continues := pairwise_history {} state sheets }

end Published

end LectureDeck
