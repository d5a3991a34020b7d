import LectureDeck.Decimal.Layout
import LectureDeck.Sheet.Attributes

/-!
# Publishing sheets

A sheet that was published is replaced only by one that agrees with it: for the same file, with
the same questions and perhaps more.
-/

namespace LectureDeck

/-- Why a sheet may not replace the one published before. -/
inductive RepublishFault where
  | wrongFile (previous current : String)
  | questionsRemoved (previous current : Nat)
  | kindChanged (question : Nat) (previous current : String)
deriving DecidableEq, Repr

/-- What is said of a sheet that may not replace another. -/
def RepublishFault.message : RepublishFault → String
  | wrongFile previous current =>
    "published sheet belongs to '" ++ previous ++ "', not '" ++ current ++ "'"
  | questionsRemoved previous current =>
    Decimal.naturalText previous ++ " questions were published but only " ++
      Decimal.naturalText current ++ " remain"
  | kindChanged question previous current =>
    "question " ++ Decimal.naturalText question ++ " changed type from '" ++ previous ++ "' to '" ++
      current ++ "'"

variable {W : Type}

/-- The first question whose kind is not the same as before. -/
def firstKindChange (previous current : List (SheetQuestion W)) : Option RepublishFault :=
  (previous.zip current).findSome? fun (old, new) =>
    if old.kind = new.kind then none else some (.kindChanged old.number old.kind new.kind)

/-- The sheet may replace the one published before. -/
def SheetAttributes.checkReplaces (previous current : SheetAttributes W) :
    Except RepublishFault Unit :=
  if previous.file ≠ current.file then .error (.wrongFile previous.file current.file)
  else if current.questions.length < previous.questions.length then
    .error (.questionsRemoved previous.questions.length current.questions.length)
  else
    match firstKindChange previous.questions current.questions with
    | some fault => .error fault
    | none => .ok ()

/-- A sheet on its way to the remote store. -/
structure Post (W : Type) where
  session : String
  sheet : SheetAttributes W
deriving Repr

/-- Why a sheet was not published. -/
inductive PublishError where
  | refused (session : String) (fault : RepublishFault)
  | failed (session reason : String)
deriving DecidableEq, Repr

/-- What is said of a sheet that was not published, the outermost cause first. -/
def PublishError.causes : PublishError → List String
  | refused session fault => ["refusing to republish session '" ++ session ++ "'", fault.message]
  | failed session reason => ["failed to post session '" ++ session ++ "'", reason]

/-- The post that publishing a sheet makes, unless the sheet may not replace the one before. -/
def preparePost (session : String) (previous : Option (SheetAttributes W))
    (sheet : SheetAttributes W) : Except PublishError (Post W) :=
  match previous with
  | none => .ok ⟨session, sheet⟩
  | some published =>
    match published.checkReplaces sheet with
    | .error fault => .error (.refused session fault)
    | .ok () => .ok ⟨session, sheet⟩

/-- A sheet published by a remote store, which answers a post or fails with a reason, and may do
other things besides. -/
def publish {m : Type → Type} [Monad m] {R : Type} (remote : Post W → m (Except String R))
    (session : String) (previous : Option (SheetAttributes W)) (sheet : SheetAttributes W) :
    m (Except PublishError R) :=
  match preparePost session previous sheet with
  | .error error => pure (.error error)
  | .ok post => do
    match ← remote post with
    | .ok answer => return .ok answer
    | .error reason => return .error (.failed session reason)

/-- The sheets published last, by session. -/
structure Published (W : Type) where
  sheets : List (String × SheetAttributes W) := []

namespace Published

def get? (published : Published W) (session : String) : Option (SheetAttributes W) :=
  published.sheets.lookup session

def put (published : Published W) (session : String) (sheet : SheetAttributes W) : Published W :=
  ⟨(session, sheet) :: published.sheets⟩

/-- The sheet that a new one is to replace. A forced attempt replaces whatever there is. -/
def replaced (published : Published W) (session : String) (force : Bool) :
    Option (SheetAttributes W) :=
  if force then none else published.get? session

/-- An attempt to publish a sheet, and the sheets published after it. Only success changes them. -/
def attemptBy {m : Type → Type} [Monad m] {R : Type} (remote : Post W → m (Except String R))
    (published : Published W) (session : String) (force : Bool) (sheet : SheetAttributes W) :
    m (Except PublishError R × Published W) := do
  match ← publish remote session (published.replaced session force) sheet with
  | .ok answer => return (.ok answer, published.put session sheet)
  | .error error => return (.error error, published)

/-- An attempt to publish a sheet by a remote store that does nothing but answer. -/
def attempt {R : Type} (remote : Post W → Except String R) (published : Published W)
    (session : String) (force : Bool) (sheet : SheetAttributes W) :
    Except PublishError R × Published W :=
  Id.run (attemptBy (fun post => pure (remote post)) published session force sheet)

end Published

end LectureDeck
