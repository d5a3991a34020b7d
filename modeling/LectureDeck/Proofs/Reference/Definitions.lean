import LectureDeck.Proofs.Decimal.Natural
import LectureDeck.Proofs.Stepwise
import LectureDeck.Reference.Table
import Mathlib.Data.List.Nodup
import Mathlib.Data.List.Perm.Subperm

/-!
# Sequences of definitions

A definition is given an identifier that no reference has, whether the one that it asks for is taken
or not (`LectureDeck.Reference.Table.define_spec`). From this it follows what becomes of definitions
that are made one after another, whatever identifiers, kinds and counters they give
(`LectureDeck.Reference.Table.isFaithful_defineAll`). Each has a reference of its own, which is
found by its identifier and stays as it is. Identifiers that were made up for earlier definitions
are taken like any others.
-/

namespace LectureDeck

open Decimal

namespace Reference.Table

variable {table : Table} {id : String}

/-- The identifiers that references have. -/
def ids (table : Table) : List String := table.references.map Reference.id

theorem contains_eq_false_iff : table.contains id = false ↔ id ∉ table.ids := by
  rw [← Bool.not_eq_true]
  simp [contains, ids]

theorem nodup_candidates (table : Table) (id : String) : (table.candidates id).Nodup := by
  refine (List.nodup_map_iff_inj_on List.nodup_range).2 fun first _ second _ same => ?_
  exact Nat.succ.inj (naturalText_inj.1 ((String.append_right_inj _).1 same))

/-- One of the candidates is free: there are more of them than references. -/
theorem exists_free (table : Table) (id : String) :
    ∃ candidate ∈ table.candidates id, candidate ∉ table.ids := by
  by_contra none
  have taken : table.candidates id ⊆ table.ids :=
    fun candidate member => by_contra fun free => none ⟨candidate, member, free⟩
  have fits := ((table.nodup_candidates id).subperm taken).length_le
  rw [candidates, ids, List.length_map, List.length_map, List.length_range] at fits
  exact absurd fits (Nat.not_succ_le_self _)

/-- A repeated definition is given one of the candidates, which is free. -/
theorem freshId_spec (table : Table) (id : String) :
    table.freshId id ∈ table.candidates id ∧ table.freshId id ∉ table.ids := by
  have some : ((table.candidates id).find? fun candidate => !table.contains candidate).isSome := by
    obtain ⟨candidate, member, free⟩ := table.exists_free id
    rw [List.find?_isSome]
    exact ⟨candidate, member, by rw [contains_eq_false_iff.2 free]; rfl⟩
  obtain ⟨fresh, found⟩ := Option.isSome_iff_exists.1 some
  rw [freshId, found, Option.getD_some]
  have free := List.find?_some found
  rw [Bool.not_eq_true'] at free
  exact ⟨List.mem_of_find?_eq_some found, contains_eq_false_iff.1 free⟩

/-- A definition leaves the references that are found as they are. -/
theorem get?_define {reference : Reference} (found : table.get? id = some reference)
    (name counter : String) (kind : ReferenceKind) (slide : Nat) :
    (table.define name kind counter slide).1.get? id = some reference := by
  unfold get? at found ⊢
  rw [define, List.find?_append, found]
  rfl

theorem ids_define (table : Table) (id counter : String) (kind : ReferenceKind) (slide : Nat) :
    (table.define id kind counter slide).1.ids =
      table.ids ++ [(table.define id kind counter slide).2.id] := by
  rw [ids, define, List.map_append]
  rfl

/-- A definition is given the identifier that it asks for, or one that begins with it. No reference
has it. -/
theorem define_spec (table : Table) (id counter : String) (kind : ReferenceKind) (slide : Nat) :
    (∃ rest, (table.define id kind counter slide).2.id = id ++ rest) ∧
      (table.define id kind counter slide).2.id ∉ table.ids := by
  unfold define
  dsimp only
  cases known : table.contains id with
  | false => exact ⟨⟨"", String.append_empty.symm⟩, contains_eq_false_iff.1 known⟩
  | true =>
    obtain ⟨member, free⟩ := table.freshId_spec id
    obtain ⟨number, -, same⟩ := List.mem_map.1 member
    refine ⟨⟨"-duplicate-" ++ naturalText (number + 1), ?_⟩, free⟩
    rw [← String.append_assoc]
    exact same.symm

end Reference.Table

namespace Reference

/-- A definition that is to be made. -/
structure Request where
  id : String
  kind : ReferenceKind
  counter : String
  slide : Nat
deriving DecidableEq

namespace Request

/-- The reference that a definition makes, given what becomes of it. -/
def reference (request : Request) (defined : Defined) : Reference :=
  ⟨defined.id, request.kind, defined.label, request.slide⟩

/-- The place of a definition among those of its kind under its counter, from 1. -/
def ordinal (earlier : List Request) (request : Request) : Nat :=
  earlier.countP (fun other => other.kind = request.kind ∧ other.counter = request.counter) + 1

/-- The label of a definition, given those before it. -/
def label (fileNumber : Nat) (earlier : List Request) (request : Request) : String :=
  match request.kind with
  | .plain => ""
  | .counted => naturalText (request.ordinal earlier)
  | .chapterCounted => naturalText fileNumber ++ "." ++ naturalText (request.ordinal earlier)

/-- The identifier that a repeated definition is to have when a number of others are taken. -/
def renamed (request : Request) (tried : Nat) : String :=
  request.id ++ "-duplicate-" ++ naturalText (tried + 1)

end Request

/-- Definitions with what became of each, in order. -/
abbrev Log : Type := List (Request × Defined)

namespace Log

def requests (log : Log) : List Request := log.map Prod.fst

/-- The identifiers that definitions were given. -/
def ids (log : Log) : List String := log.map fun call => call.2.id

/-- The references that definitions made. -/
def references (log : Log) : List Reference := log.map fun call => call.1.reference call.2

/-- What has to become of a definition, given those before it. -/
structure IsOutcome (fileNumber : Nat) (before : Log) (call : Request × Defined) : Prop where
  isNew : call.2.isNew = true ↔ call.1.id ∉ before.ids
  /-- An identifier that is free is kept. -/
  kept : call.1.id ∉ before.ids → call.2.id = call.1.id
  /-- One that is taken is replaced by the first renaming of it that is free. -/
  renamed : call.1.id ∈ before.ids → ∃ tried, call.2.id = call.1.renamed tried ∧
    call.1.renamed tried ∉ before.ids ∧ ∀ other < tried, call.1.renamed other ∈ before.ids
  label : call.2.label = call.1.label fileNumber before.requests

end Log

namespace Table

variable {table : Table} {log : Log}

/-- One more definition made and logged. -/
def defineNext (state : Table × Log) (request : Request) : Table × Log :=
  let (table, defined) :=
    state.1.define request.id request.kind request.counter request.slide
  (table, state.2 ++ [(request, defined)])

/-- Definitions made one after another. -/
def defineAll (table : Table) (requests : List Request) : Table × Log :=
  requests.foldl defineNext (table, [])

/-- The renaming that a repeated definition is given is the first one that is free. -/
theorem exists_freshId_eq_renamed (table : Table) (request : Request) :
    ∃ tried, table.freshId request.id = request.renamed tried ∧
      request.renamed tried ∉ table.ids ∧ ∀ other < tried, request.renamed other ∈ table.ids := by
  have renames : table.candidates request.id =
      (List.range (table.references.length + 1)).map request.renamed := rfl
  have found := freshId_spec table request.id
  obtain ⟨first, same⟩ : ∃ first,
      (table.candidates request.id).find? (fun candidate => !table.contains candidate) =
        some first := by
    obtain ⟨candidate, member, free⟩ := table.exists_free request.id
    refine Option.isSome_iff_exists.1 (List.find?_isSome.2 ⟨candidate, member, ?_⟩)
    rw [contains_eq_false_iff.2 free]
    rfl
  rw [freshId, same, Option.getD_some] at found ⊢
  rw [renames, List.find?_map] at same
  obtain ⟨tried, searched, rfl⟩ := Option.map_eq_some_iff.1 same
  obtain ⟨-, -, taken⟩ := List.find?_range_eq_some.1 searched
  refine ⟨tried, rfl, found.2, fun other before => ?_⟩
  by_contra free
  have refused := taken other before
  rw [Function.comp_apply, contains_eq_false_iff.2 free] at refused
  contradiction

/-- The label of the next definition counts those of its kind under its counter. -/
theorem nextLabel_eq (request : Request)
    (history : table.history = log.requests.map fun other => (other.kind, other.counter)) :
    table.nextLabel request.kind request.counter =
      request.label table.fileNumber log.requests := by
  have counted : table.history.count (request.kind, request.counter) + 1 =
      request.ordinal log.requests := by
    rw [history, List.count, List.countP_map, Request.ordinal]
    congr 2
    funext other
    simp [Function.comp_apply, Bool.beq_eq_decide_eq]
  unfold nextLabel Request.label
  generalize request.ordinal log.requests = ordinal at counted ⊢
  subst counted
  rfl

/-- What a log says of the table that it leads to. -/
structure Records (fileNumber : Nat) (log : Log) (table : Table) : Prop where
  number : table.fileNumber = fileNumber
  references : table.references = log.references
  history : table.history = log.requests.map fun request => (request.kind, request.counter)
  distinct : table.ids.Nodup
  outcomes : Stepwise (Log.IsOutcome fileNumber) log

theorem Records.ids {fileNumber : Nat} (records : Records fileNumber log table) :
    table.ids = log.ids := by
  rw [Table.ids, records.references, Log.references, List.map_map]
  rfl

/-- What becomes of a definition that is made in the table. -/
theorem Records.isOutcome {fileNumber : Nat} (records : Records fileNumber log table)
    (request : Request) : Log.IsOutcome fileNumber log (request,
      (table.define request.id request.kind request.counter request.slide).2) := by
  have label := nextLabel_eq request records.history
  rw [records.number] at label
  unfold define
  dsimp only
  cases known : table.contains request.id with
  | false =>
    have free : request.id ∉ log.ids := records.ids ▸ contains_eq_false_iff.1 known
    exact ⟨iff_of_true rfl free, fun _ => rfl, fun taken => absurd taken free, label⟩
  | true =>
    have taken : request.id ∈ log.ids := by
      rw [← records.ids]
      by_contra free
      rw [contains_eq_false_iff.2 free] at known
      contradiction
    have first := table.exists_freshId_eq_renamed request
    rw [records.ids] at first
    exact ⟨iff_of_false Bool.false_ne_true (not_not_intro taken), fun free => absurd taken free,
      fun _ => first, label⟩

/-- **One more definition is recorded.** -/
theorem Records.defineNext {fileNumber : Nat} (records : Records fileNumber log table)
    (request : Request) : Records fileNumber (defineNext (table, log) request).2
      (defineNext (table, log) request).1 where
  number := records.number
  references := by
    rw [Log.references, Table.defineNext, List.map_append, ← Log.references, ← records.references]
    rfl
  history := by
    rw [Log.requests, Table.defineNext, List.map_append, List.map_append, ← Log.requests,
      ← records.history]
    rfl
  distinct := by
    rw [Table.defineNext, ids_define]
    refine List.nodup_append.2 ⟨records.distinct, List.nodup_singleton _, ?_⟩
    intro id member other last
    rw [List.mem_singleton.1 last]
    rintro rfl
    exact (define_spec table request.id request.counter request.kind request.slide).2 member
  outcomes := Stepwise.concat_iff.2 ⟨records.outcomes, records.isOutcome request⟩

theorem records_defineAll (fileNumber : Nat) (requests : List Request) :
    Records fileNumber (defineAll ⟨fileNumber, [], []⟩ requests).2
      (defineAll ⟨fileNumber, [], []⟩ requests).1 := by
  induction requests using List.reverseRecOn with
  | nil => exact ⟨rfl, rfl, rfl, List.nodup_nil, Stepwise.nil⟩
  | append_singleton requests request earlier =>
    rw [defineAll, List.foldl_append]
    exact earlier.defineNext request

theorem requests_defineAll (table : Table) (requests : List Request) :
    (table.defineAll requests).2.requests = requests := by
  induction requests using List.reverseRecOn with
  | nil => rfl
  | append_singleton requests request earlier =>
    rw [defineAll, List.foldl_append]
    change Log.requests ((table.defineAll requests).2 ++ _) = _
    rw [Log.requests, List.map_append, ← Log.requests, earlier]
    rfl

/-- A reference is found by its identifier, which no other has. -/
theorem get?_of_mem (distinct : table.ids.Nodup) {reference : Reference}
    (member : reference ∈ table.references) : table.get? reference.id = some reference := by
  obtain ⟨before, after, same⟩ := List.append_of_mem member
  rw [Table.ids, same, List.map_append, List.map_cons] at distinct
  rw [get?, same, List.find?_append]
  have others : before.find? (fun other => other.id == reference.id) = none := by
    rw [List.find?_eq_none]
    intro other earlier equal
    have apart := (List.nodup_append.1 distinct).2.2 other.id (List.mem_map_of_mem earlier)
    exact apart _ List.mem_cons_self (beq_iff_eq.1 equal)
  rw [others, Option.none_or]
  exact List.find?_cons_of_pos (beq_self_eq_true _)

/-- Later definitions leave the references that are found as they are. -/
theorem get?_defineAll {id : String} {reference : Reference}
    (found : table.get? id = some reference) (later : List Request) :
    (table.defineAll later).1.get? id = some reference := by
  induction later using List.reverseRecOn with
  | nil => exact found
  | append_singleton later request earlier =>
    rw [defineAll, List.foldl_append]
    exact get?_define earlier _ _ _ _

/-- What a table is after definitions that were made one after another. -/
structure IsFaithful (fileNumber : Nat) (requests : List Request) (made : Table × Log) : Prop where
  requests : made.2.requests = requests
  /-- Each definition makes a reference, in order. -/
  references : made.1.references = made.2.references
  distinct : made.1.ids.Nodup
  /-- A reference is found by its identifier, whatever is defined later. -/
  found : ∀ reference ∈ made.1.references, ∀ later,
    (made.1.defineAll later).1.get? reference.id = some reference
  outcomes : Stepwise (Log.IsOutcome fileNumber) made.2

/-- **Definitions.** Whatever is defined, each definition makes one reference, in order. References
have identifiers of their own, by which they are found, then and later. A definition whose
identifier is free keeps it; any other is given the first renaming that is free, and there always is
one. Labels count the definitions of a kind under a counter. -/
theorem isFaithful_defineAll (fileNumber : Nat) (requests : List Request) :
    IsFaithful fileNumber requests (defineAll ⟨fileNumber, [], []⟩ requests) where
  requests := requests_defineAll _ requests
  references := (records_defineAll fileNumber requests).references
  distinct := (records_defineAll fileNumber requests).distinct
  found := fun _ member later =>
    get?_defineAll (get?_of_mem (records_defineAll fileNumber requests).distinct member) later
  outcomes := (records_defineAll fileNumber requests).outcomes

end Table

end Reference

end LectureDeck
