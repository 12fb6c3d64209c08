/-
# ListExpansion.Proofs.Directory.Recording -- directories observed from outside

`Directory.recording` writes down the searches that reach a directory and leaves the
answering to it, so that what a lookup asks for can be spoken of whatever the directory
is.  Others keep such a record of their own (`Directory.Records`).

A directory is steady from a state on (`Directory.Steady`) when nothing but the search
decides the answer, however many other searches came before.  One of prepared answers
is (`steady_prepared`): it changes only by what it records.

`Directory.Simulates` relates the states of two directories that no search tells apart;
`lookUp_simulated` carries it to lookups.
-/
import ListExpansion.Directory.Prepared

namespace ListExpansion

set_option autoImplicit false

namespace Directory

variable {σ τ : Type}

/-- The same directory, with a record of the searches that reach it, oldest first. -/
def recording (directory : Directory σ) : Directory (σ × List Search) where
  search search state :=
    let (reply, after) := directory.search search state.1
    (reply, after, state.2 ++ [search])

/-- `recorded` shows the searches that reached the directory, oldest first. -/
def Records (directory : Directory σ) (recorded : σ → List Search) : Prop :=
  ∀ search state, recorded (directory.search search state).2 = recorded state ++ [search]

theorem records_prepared : PreparedDirectory.asDirectory.Records PreparedDirectory.searches :=
  fun _ _ => rfl

/-- The state after these searches. -/
def after (directory : Directory σ) (state : σ) (made : List Search) : σ :=
  made.foldl (fun reached search => (directory.search search reached).2) state

/-- From `state` on the directory answers a search by `answer`, whatever came before. -/
def Steady (directory : Directory σ) (state : σ) (answer : Search → Reply) : Prop :=
  ∀ made search, (directory.search search (directory.after state made)).1 = answer search

theorem Steady.reply {directory : Directory σ} {state : σ} {answer : Search → Reply}
    (steady : directory.Steady state answer) (search : Search) :
    (directory.search search state).1 = answer search :=
  steady [] search

theorem Steady.search {directory : Directory σ} {state : σ} {answer : Search → Reply}
    (steady : directory.Steady state answer) (search : Search) :
    directory.Steady (directory.search search state).2 answer :=
  fun made => steady (search :: made)

/-- A directory of prepared answers is steady. -/
theorem steady_prepared (directory : PreparedDirectory) :
    PreparedDirectory.asDirectory.Steady directory directory.answerTo := by
  intro made
  induction made generalizing directory with
  | nil => exact fun _ => rfl
  | cons first made ih =>
      exact ih { directory with searches := directory.searches ++ [first] }

/-- No search tells related states apart. -/
def Simulates (left : Directory σ) (right : Directory τ) (related : σ → τ → Prop) : Prop :=
  ∀ search s t, related s t →
    (left.search search s).1 = (right.search search t).1 ∧
      related (left.search search s).2 (right.search search t).2

theorem lookUp_simulated {left : Directory σ} {right : Directory τ} {related : σ → τ → Prop}
    (simulates : left.Simulates right related) {s : σ} {t : τ} (start : related s t)
    (query : Query) (address : Bytes) :
    (left.lookUp query address s).1 = (right.lookUp query address t).1 ∧
      related (left.lookUp query address s).2 (right.lookUp query address t).2 := by
  unfold lookUp
  cases query.searchFor address with
  | error failure => exact ⟨rfl, start⟩
  | ok search => exact simulates search s t start

/-- The two states answer alike from now on, and have the same record. -/
def AnswersAlike (directory : Directory σ) (answer : Search → Reply)
    (s t : σ × List Search) : Prop :=
  directory.Steady s.1 answer ∧ directory.Steady t.1 answer ∧ s.2 = t.2

theorem recording_simulates (directory : Directory σ) (answer : Search → Reply) :
    directory.recording.Simulates directory.recording (directory.AnswersAlike answer) := by
  intro search s t alike
  obtain ⟨left, right, record⟩ := alike
  refine ⟨(left.reply search).trans (right.reply search).symm, left.search search,
    right.search search, ?_⟩
  exact congrArg (· ++ [search]) record

end Directory

end ListExpansion
