import LectureDeck.Pattern.Normal

/-!
# The size of a pattern

A pattern is followed by two machines, one that reads a text forwards and remembers where groups
begin and end, and one that reads it backwards. Machines read bytes. Only their size matters here: a
pattern for which one of them takes too much room is refused.

A machine is made state by state, and a state is known by its number. The encoded forms of a set of
characters share states: what has been made is looked up among the latest states, each kept at a
place that is computed from what it does, so that a newer one may displace an older one.
-/

namespace LectureDeck

/-- What has been made of a machine: how many states, and how many bytes they take. -/
structure Machine where
  states : Nat := 0
  bytes : Nat := 0
deriving DecidableEq, Repr

namespace Machine

/-- The number of bytes that a machine may take. -/
def limit : Nat := 10485760

/-- The number of bytes of a state. -/
def stateSize : Nat := 32

/-- The number of bytes of a step on a range of bytes. -/
def stepSize : Nat := 8

/-- The number of bytes of a way to go on from a fork. -/
def waySize : Nat := 4

/-- A machine with more states, and more bytes for what they hold, if it is not too large. -/
def grow? (machine : Machine) (states further : Nat) : Option Machine :=
  let bytes := machine.bytes + stateSize * states + further
  if bytes ≤ limit then some ⟨machine.states + states, bytes⟩ else none

/-- A machine whose last part is led on to a state. A part that ends in a fork gets one more way. -/
def lead? (machine : Machine) (fork : Bool) : Option Machine :=
  machine.grow? 0 (if fork then waySize else 0)

end Machine

/-- What is done to make a part of a machine. The result tells whether the part ends in a fork. -/
abbrev Construction : Type := Machine → Option (Machine × Bool)

namespace Construction

open Machine

/-- States in a row, with what they hold. -/
def row (states further : Nat) : Construction := fun machine =>
  (machine.grow? states further).map (·, false)

/-- A part made a number of times more, each led on to the next. -/
def more (part : Construction) : Nat → Machine → Bool → Option (Machine × Bool)
  | 0, machine, fork => some (machine, fork)
  | count + 1, machine, fork => do
    let (machine, next) ← part machine
    more part count (← machine.lead? fork) next

/-- A part made a number of times. -/
def times (part : Construction) : Nat → Construction
  | 0 => row 1 0
  | count + 1 => fun machine => do
    let (machine, fork) ← part machine
    part.more count machine fork

/-- A part made a number of times more, where each may be passed over. -/
def optional (part : Construction) : Nat → Machine → Bool → Option (Machine × Bool)
  | 0, machine, fork => some (machine, fork)
  | count + 1, machine, fork => do
    let (machine, next) ← part (← machine.grow? 1 (2 * waySize))
    optional part count (← machine.lead? fork) next

/-- A part that may be repeated without bound. One that describes no empty text is led back to a
fork before it. -/
def unbounded (part : Construction) (nonempty : Bool) (least : Nat) : Construction := fun machine =>
  if least = 0 then
    if nonempty then do
      let (machine, fork) ← part (← machine.grow? 1 waySize)
      some (← machine.lead? fork, true)
    else do
      let (machine, fork) ← part machine
      row 3 (4 * waySize) (← machine.lead? fork)
  else do
    let (machine, fork) ← part.times least machine
    let machine ← machine.lead? fork
    some (← machine.grow? 1 waySize, true)

/-- A part made at least a number of times, and at most some times more. -/
def bounded (part : Construction) (least further : Nat) : Construction := fun machine =>
  if further = 0 then part.times least machine
  else if least = 0 && further = 1 then do
    let (machine, fork) ← part (← machine.grow? 1 (2 * waySize))
    row 1 0 (← machine.lead? fork)
  else do
    let (machine, fork) ← part.times least machine
    let (machine, fork) ← part.optional further (← machine.grow? 1 0) fork
    some (← machine.lead? fork, false)

/-- A part between the states that remember where it begins and ends. -/
def captured (part : Construction) : Construction := fun machine => do
  let (machine, fork) ← part (← machine.grow? 1 0)
  row 1 0 (← machine.lead? fork)

end Construction

namespace Machine

/-- A step on a range of bytes to a state. -/
structure Step where
  bytes : Nat × Nat
  next : Nat
deriving DecidableEq, Repr

/-- The start of the sums from which places are computed. -/
def sumStart : UInt64 := 14695981039346656037

def sumWith (sum : UInt64) (number : Nat) : UInt64 :=
  (sum ^^^ number.toUInt64) * 1099511628211

def sumOf (steps : List Step) : UInt64 :=
  steps.foldl (fun sum step =>
    sumWith (sumWith (sumWith sum step.bytes.1) step.bytes.2) step.next) sumStart

/-- A machine with places for states that can be looked up by what they do. -/
structure Shared (α : Type) where
  machine : Machine
  places : Array (Option (α × Nat))

/-- A machine with a number of empty places. -/
def Shared.ofMachine {α : Type} (machine : Machine) (places : Nat) : Shared α :=
  ⟨machine, Array.replicate places none⟩

/-- One more state, put at a place. -/
def Shared.add? {α : Type} (shared : Shared α) (place : Nat) (key : α) (further : Nat) :
    Option (Nat × Shared α) :=
  let number := shared.machine.states
  match shared.machine.grow? 1 further with
  | some machine =>
    some (number, ⟨machine, shared.places.setIfInBounds place (some (key, number))⟩)
  | none => none

/-- The number of a state that does what is asked for, made unless it is found at its place. -/
def Shared.state? {α : Type} [DecidableEq α] (shared : Shared α) (sum : UInt64) (key : α)
    (further : Nat) : Option (Nat × Shared α) :=
  let place := (sum % shared.places.size.toUInt64).toNat
  match shared.places[place]? with
  | some (some (other, number)) =>
    if other = key then some (number, shared) else shared.add? place key further
  | _ => shared.add? place key further

/-- The number of places for states that are looked up by all their steps. -/
def stepPlaces : Nat := 10000

/-- A state that is not finished: its steps so far, and a range whose step is not. -/
structure Draft where
  steps : List Step
  pending : Option (Nat × Nat)

/-- A state with its last step led to a state. -/
def Draft.close (draft : Draft) (next : Nat) : List Step :=
  match draft.pending with
  | some range => draft.steps ++ [⟨range, next⟩]
  | none => draft.steps

/-- The first of a chain of states finished, each leading to the next and the last to an end. -/
def finish? (target : Nat) : List Draft → Shared (List Step) → Option (Nat × Shared (List Step))
  | [], shared => some (target, shared)
  | draft :: deeper, shared => do
    let (next, shared) ← finish? target deeper shared
    let steps := draft.close next
    shared.state? (sumOf steps) steps (stepSize * steps.length)

/-- A chain of states that go on with a byte sequence. The states where it agrees with the sequence
before it stay open, the others are finished. -/
def goOn? (target : Nat) :
    List Draft → Ranges → Shared (List Step) → Option (List Draft × Shared (List Step))
  | draft :: deeper, range :: rest, shared =>
    if draft.pending = some range then do
      let (deeper, shared) ← goOn? target deeper rest shared
      some (draft :: deeper, shared)
    else do
      let (next, shared) ← finish? target deeper shared
      some (⟨draft.close next, some range⟩ :: rest.map (⟨[], some ·⟩), shared)
  | [], ranges, shared => some (ranges.map (⟨[], some ·⟩), shared)
  | drafts, [], shared => some (drafts, shared)

/-- The states that read byte sequences in ascending order. -/
def forwardSequences? (target : Nat) :
    List Draft → Shared (List Step) → List Ranges → Option (Nat × Shared (List Step))
  | drafts, shared, [] => finish? target drafts shared
  | drafts, shared, sequence :: rest => do
    let (drafts, shared) ← goOn? target drafts sequence shared
    forwardSequences? target drafts shared rest

/-- The number of places for states that are looked up by one step. -/
def rangePlaces : Nat := 1000

/-- The states that read a byte sequence from its end, each leading to the one before it. -/
def backwardSequence? : Nat → Shared Step → Ranges → Option (Shared Step)
  | _, shared, [] => some shared
  | next, shared, range :: rest => do
    let sum := sumWith (sumWith (sumWith sumStart next) range.1) range.2
    let (next, shared) ← shared.state? sum ⟨range, next⟩ 0
    backwardSequence? next shared rest

/-- The states that read byte sequences from their ends, with a way to each from a fork. -/
def backwardSequences? (target : Nat) : Shared Step → List Ranges → Option (Shared Step)
  | shared, [] => some shared
  | shared, sequence :: rest => do
    let shared ← backwardSequence? target shared sequence
    let machine ← shared.machine.grow? 0 waySize
    backwardSequences? target { shared with machine := machine } rest

/-- The states for one character of a set. -/
def chars (backward : Bool) (ranges : Ranges) : Construction := fun machine =>
  if ranges.all fun range => range.2 < 0x80 then
    Construction.row 2 (stepSize * ranges.length) machine
  else
    let sequences := ranges.flatMap Ranges.byteSequences
    if backward then do
      let shared := Shared.ofMachine (← machine.grow? 2 0) rangePlaces
      let shared ← backwardSequences? (machine.states + 1) shared sequences
      some (shared.machine, false)
    else do
      let shared := Shared.ofMachine (← machine.grow? 1 0) stepPlaces
      let (_, shared) ← forwardSequences? machine.states [⟨[], none⟩] shared sequences
      some (shared.machine, false)

/-- Words that begin with the same byte, without it. -/
abbrev Bundle : Type := Nat × List (List Nat)

def addToBundles (byte : Nat) (word : List Nat) : List Bundle → List Bundle
  | [] => [(byte, [word])]
  | (other, words) :: rest =>
    if other = byte then (other, words ++ [word]) :: rest
    else (other, words) :: addToBundles byte word rest

/-- The words that go on from a state, in bundles, in groups between which a word ends at the state;
the latest group is apart. A word that ends where others have ended and none goes on adds
nothing. -/
def bundleGroups (words : List (List Nat)) : List (List Bundle) × List Bundle :=
  words.foldl
    (fun (groups, latest) word =>
      match word with
      | [] =>
        if latest.isEmpty && !groups.isEmpty && groups.all List.isEmpty then (groups, latest)
        else (latest :: groups, [])
      | byte :: rest => (groups, addToBundles byte rest latest))
    ([], [])

/-- The states that words go through after a common beginning, and then to one end. -/
def words? : Nat → List (List Nat) → Machine → Option Machine
  | 0, _, machine => some machine
  | fuel + 1, words, machine => do
    let (groups, latest) := bundleGroups words
    let inner := (latest :: groups).flatten.filter fun bundle => bundle.2.any (!·.isEmpty)
    let machine ← inner.foldlM (fun machine bundle => words? fuel bundle.2 machine) machine
    let groupSizes := ((latest :: groups).map List.length).filter (· != 0)
    let machine ← groupSizes.foldlM
      (fun machine size => machine.grow? 1 (if size = 1 then 0 else stepSize * size)) machine
    machine.grow? 1 (waySize * (groupSizes.length + groups.length))

def literals? (forms : List Normal) : Option (List (List Char)) :=
  forms.mapM fun form =>
    match form with
    | .literal text => some text
    | _ => none

/-- The bytes of a text, in the order in which a machine reads them. -/
def readBytes (backward : Bool) (text : List Char) : List Nat :=
  let bytes := (Text.bytes text).map UInt8.toNat
  if backward then bytes.reverse else bytes

/-- The states for one of some literals, which share their beginnings. -/
def anyLiteral (backward : Bool) (texts : List (List Char)) : Construction := fun machine => do
  let words := texts.map (readBytes backward)
  let depth := words.foldl (fun depth word => max depth word.length) 0
  let machine ← words? (depth + 1) words (← machine.grow? 1 0)
  some (machine, false)

mutual

/-- The states of a form, for a machine that reads forwards or backwards. -/
def construct (backward : Bool) : Normal → Construction
  | .empty => .row 1 0
  | .literal text => .row (Text.byteSize text) 0
  | .chars ranges => chars backward ranges
  | .assertion _ => .row 1 0
  | .repeated inner least most =>
    match most with
    | none => (construct backward inner).unbounded (inner.shortest?.any (0 < ·)) least
    | some further => (construct backward inner).bounded least further
  | .captured inner =>
    if backward then construct backward inner else (construct backward inner).captured
  | .append parts => fun machine => do
    let (machine, fork) ← sequence backward parts (machine, none)
    some (machine, fork.getD false)
  | .either branches =>
    match literals? branches with
    | some texts => anyLiteral backward texts
    | none => fun machine => (ways backward 0 branches machine).map (·, false)

/-- The states of parts in the order in which they are read, each led on to the next. -/
def sequence (backward : Bool) :
    List Normal → Machine × Option Bool → Option (Machine × Option Bool)
  | [], made => some made
  | form :: rest, made =>
    let add := fun (made : Machine × Option Bool) => do
      let (machine, fork) ← construct backward form made.1
      some (← machine.lead? (made.2.getD false), some fork)
    if backward then do add (← sequence backward rest made)
    else do sequence backward rest (← add made)

/-- The states of alternatives, with a fork and an end after the second of them. -/
def ways (backward : Bool) : Nat → List Normal → Machine → Option Machine
  | _, [], machine => some machine
  | index, form :: rest, machine => do
    let (machine, fork) ← construct backward form machine
    let machine ← machine.grow? (if index = 1 then 2 else 0) waySize
    ways backward (index + 1) rest (← machine.lead? fork)

end

/-- The machine that reads forwards or backwards. Unless texts must be read from their edge, it can
pass over any byte first. It remembers where the whole begins and ends if it reads forwards. -/
def ofNormal? (backward : Bool) (form : Normal) : Option Machine := do
  let atEdge := form.hasAtEdge backward (if backward then .textEnd else .textStart)
  let start : Machine := {}
  let machine ← if atEdge then start.grow? 1 0 else start.grow? 3 (stepSize + 2 * waySize)
  let whole := if backward then construct backward form else (construct backward form).captured
  let (machine, fork) ← whole machine
  let machine ← machine.lead? fork
  machine.grow? 1 0

end Machine

/-- The machines of a pattern are not too large. -/
def Pattern.fits (pattern : Pattern) : Bool :=
  let form := pattern.normal
  (Machine.ofNormal? false form).isSome && (Machine.ofNormal? true form).isSome

end LectureDeck
