/-
# ListExpansion.Proofs.Host.Likeness -- machines that differ in hidden content alone

Files are alike when they differ in the content of files at hidden places and nowhere else
(`FileSystem.Alike`), and so are machines with such files (`Machine.Alike`).  Only who reads
such a file can tell: whatever else is done to machines that are alike ends the same way
(`Likewise`, `Machine.EndAlike`) and leaves them alike.
-/
import ListExpansion.Proofs.Host.Contents

namespace ListExpansion

set_option autoImplicit false

/-- The same error, or values that are related. -/
def Likewise {ε α β : Type} (related : α → β → Prop) (one : Except ε α) (other : Except ε β) :
    Prop :=
  (∃ error, one = .error error ∧ other = .error error) ∨
    ∃ value valueToo, one = .ok value ∧ other = .ok valueToo ∧ related value valueToo

theorem Likewise.error {ε α β : Type} {related : α → β → Prop} (error : ε) :
    Likewise related (.error error) (.error error) :=
  .inl ⟨error, rfl, rfl⟩

theorem Likewise.ok {ε α β : Type} {related : α → β → Prop} {one : α} {other : β}
    (alike : related one other) :
    Likewise related (.ok one : Except ε α) (.ok other : Except ε β) :=
  .inr ⟨one, other, rfl, rfl, alike⟩

/-- The same choice between outcomes. -/
theorem Likewise.ite {ε α β : Type} {related : α → β → Prop} (condition : Prop)
    [Decidable condition] {one yes : Except ε α} {other yesToo : Except ε β}
    (accepted : Likewise related yes yesToo) (refused : Likewise related one other) :
    Likewise related (if condition then yes else one) (if condition then yesToo else other) := by
  split
  · exact accepted
  · exact refused

/-! ## Files -/

/-- Files that differ in hidden content alone. -/
def FileSystem.Alike (hidden : Place → Bool) (one other : FileSystem) : Prop :=
  one.blank hidden = other.blank hidden

namespace FileSystem.Alike

variable {hidden : Place → Bool} {one other : FileSystem}

theorem seen {α : Type} (alike : Alike hidden one other) (see : FileSystem → α)
    (blind : ∀ files, see (files.blank hidden) = see files) : see one = see other :=
  (blind one).symm.trans ((congrArg see alike).trans (blind other))

/-- A change that does not depend on hidden content. -/
theorem likewise (alike : Alike hidden one other) (change : FileSystem → Except IoError FileSystem)
    (blind : ∀ files, (change (files.blank hidden)).map (blank hidden) =
      (change files).map (blank hidden)) :
    Likewise (Alike hidden) (change one) (change other) := by
  have same := alike.seen (fun files => (change files).map (blank hidden)) blind
  revert same
  rcases change one with error | files <;> rcases change other with errorToo | filesToo
  · rintro ⟨⟩
    exact .error error
  · nofun
  · nofun
  · intro same
    exact .ok (Except.ok.inj same)

/-- A change that goes the same way without hidden content. -/
theorem likewise_of_map (alike : Alike hidden one other)
    (change : FileSystem → Except IoError FileSystem)
    (blind : ∀ files, change (files.blank hidden) = (change files).map (blank hidden)) :
    Likewise (Alike hidden) (change one) (change other) := by
  refine alike.likewise change fun files => ?_
  rw [blind]
  cases change files with
  | error error => rfl
  | ok changed => exact congrArg Except.ok (blank_blank hidden changed)

/-- A change that cannot fail, and goes the same way without hidden content. -/
theorem changed (alike : Alike hidden one other) (change : FileSystem → FileSystem)
    (blind : ∀ files, change (files.blank hidden) = (change files).blank hidden) :
    Alike hidden (change one) (change other) :=
  (blind one).symm.trans ((congrArg change alike).trans (blind other))

theorem exists? (alike : Alike hidden one other) (path : Bytes) :
    one.exists? path = other.exists? path :=
  alike.seen (·.exists? path) fun _ => exists?_blank hidden path

/-- What is found is the same but for its content. -/
theorem find (alike : Alike hidden one other) (path : Bytes) :
    (one.find path).map (fun found => found.2.blank) =
      (other.find path).map (fun found => found.2.blank) := by
  refine alike.seen (fun files => (files.find path).map fun found => found.2.blank) fun files => ?_
  simp only [find_blank]
  rcases files.find path with error | ⟨place, node⟩
  · rfl
  · exact congrArg Except.ok (Node.blank_shown hidden place node)

theorem inspect (alike : Alike hidden one other) (path : Bytes) :
    (one.inspect path).map Node.blank = (other.inspect path).map Node.blank :=
  alike.seen (fun files => (files.inspect path).map Node.blank) fun _ => inspect_blank hidden path

theorem makeTree (alike : Alike hidden one other) (umask : Nat) (path : Bytes) :
    (one.makeTree umask path).1 = (other.makeTree umask path).1 ∧
      Alike hidden (one.makeTree umask path).2 (other.makeTree umask path).2 :=
  ⟨alike.seen (fun files => (files.makeTree umask path).1) fun files => by
      rw [makeTree_blank]
      rfl,
    alike.changed (fun files => (files.makeTree umask path).2) fun files => by
      rw [makeTree_blank]
      rfl⟩

theorem remove (alike : Alike hidden one other) (path : Bytes) :
    Likewise (Alike hidden) (one.remove path) (other.remove path) :=
  alike.likewise_of_map (·.remove path) fun _ => remove_blank hidden path

theorem makeSocket (alike : Alike hidden one other) (path : Bytes) (endpoint : Nat) :
    Likewise (Alike hidden) (one.makeSocket path endpoint) (other.makeSocket path endpoint) :=
  alike.likewise_of_map (·.makeSocket path endpoint) fun _ =>
    makeSocket_blank hidden path endpoint

theorem write (alike : Alike hidden one other) (path content : Bytes) :
    Likewise (Alike hidden) (one.write path content) (other.write path content) :=
  alike.likewise (·.write path content) fun _ => write_blank hidden path content

end FileSystem.Alike

/-! ## Machines -/

namespace Machine

/-- Machines that differ in hidden content alone. -/
inductive Alike (hidden : Place → Bool) : Machine → Machine → Prop
  | intro {machine : Machine} {files : FileSystem} (alike : machine.files.Alike hidden files) :
      Alike hidden machine { machine with files }

/-- The same result, and machines that are alike. -/
def EndAlike {α : Type} (hidden : Place → Bool) (one other : α × Machine) : Prop :=
  one.1 = other.1 ∧ Alike hidden one.2 other.2

variable {hidden : Place → Bool} {one other : Machine}

theorem EndAlike.cases {α : Type} {one other : α × Machine} (same : EndAlike hidden one other) :
    ∃ result after afterToo, one = (result, after) ∧ other = (result, afterToo) ∧
      Alike hidden after afterToo := by
  obtain ⟨result, after⟩ := one
  obtain ⟨_, afterToo⟩ := other
  obtain ⟨rfl, alike⟩ := same
  exact ⟨result, after, afterToo, rfl, rfl, alike⟩

theorem EndAlike.likewise_cases {ε α : Type} {one other : Except ε (α × Machine)}
    (same : Likewise (EndAlike hidden) one other) :
    (∃ error, one = .error error ∧ other = .error error) ∨
      ∃ result after afterToo, one = .ok (result, after) ∧ other = .ok (result, afterToo) ∧
        Alike hidden after afterToo := by
  obtain failed | ⟨ended, endedToo, ends, endsToo, alike⟩ := same
  · exact .inl failed
  · obtain ⟨result, after, afterToo, rfl, rfl, next⟩ := alike.cases
    exact .inr ⟨result, after, afterToo, ends, endsToo, next⟩

theorem Alike.refl (hidden : Place → Bool) (machine : Machine) : Alike hidden machine machine :=
  .intro rfl

theorem Alike.files (alike : Alike hidden one other) : one.files.Alike hidden other.files := by
  obtain ⟨files⟩ := alike
  exact files

/-- What is seen of a machine whatever its files are. -/
theorem Alike.seen {α : Type} (alike : Alike hidden one other) (see : Machine → α)
    (blind : ∀ machine files, see { machine with files } = see machine) : see one = see other := by
  obtain ⟨-⟩ := alike
  exact (blind _ _).symm

/-- What is done to a machine and leaves its files alone. -/
theorem Alike.changed (alike : Alike hidden one other) (change : Machine → Machine)
    (blind : ∀ machine files, change { machine with files } = { change machine with files }) :
    Alike hidden (change one) (change other) := by
  obtain @⟨files, same⟩ := alike
  have kept : (change one).files = one.files := by
    have itself := congrArg Machine.files (blind one one.files)
    exact itself
  have next : Alike hidden (change one) { change one with files } := .intro (kept.symm ▸ same)
  rwa [← blind one files] at next

theorem Alike.faults (alike : Alike hidden one other) : one.faults = other.faults :=
  alike.seen Machine.faults fun _ _ => rfl

theorem Alike.log (alike : Alike hidden one other) : one.log = other.log :=
  alike.seen Machine.log fun _ _ => rfl

theorem Alike.processId (alike : Alike hidden one other) : one.processId = other.processId :=
  alike.seen Machine.processId fun _ _ => rfl

theorem Alike.umask (alike : Alike hidden one other) : one.umask = other.umask :=
  alike.seen Machine.umask fun _ _ => rfl

/-- The log may be begun anew. -/
theorem Alike.retold (alike : Alike hidden one other) (log : List Event) :
    Alike hidden { one with log } { other with log } :=
  alike.changed (fun machine => { machine with log }) fun _ _ => rfl

theorem Alike.note (alike : Alike hidden one other) (event : Event) :
    Alike hidden (one.note event) (other.note event) :=
  alike.changed (·.note event) fun _ _ => rfl

theorem Alike.noteAll (alike : Alike hidden one other) (events : List Event) :
    Alike hidden (one.noteAll events) (other.noteAll events) :=
  alike.changed (·.noteAll events) fun _ _ => rfl

theorem Alike.trying (alike : Alike hidden one other) (operation : Operation) :
    Alike hidden (one.trying operation) (other.trying operation) :=
  alike.changed (·.trying operation) fun _ _ => rfl

theorem Alike.release (alike : Alike hidden one other) (endpoint : Nat) :
    Alike hidden (one.release endpoint) (other.release endpoint) :=
  alike.changed (·.release endpoint) fun _ _ => rfl

theorem Alike.releasePort (alike : Alike hidden one other) (port : IpAddress × Nat) :
    Alike hidden (one.releasePort port) (other.releasePort port) :=
  alike.changed (·.releasePort port) fun _ _ => rfl

theorem Alike.refiled (alike : Alike hidden one other) {files filesToo : FileSystem}
    (same : files.Alike hidden filesToo) :
    Alike hidden { one with files } { other with files := filesToo } := by
  obtain ⟨-⟩ := alike
  exact .intro same

theorem Alike.attempt {α : Type} {related : α → α → Prop} (alike : Alike hidden one other)
    (operation : Operation) {outcome outcomeToo : Except IoError α}
    (same : Likewise related outcome outcomeToo) :
    Likewise related (one.attempt operation outcome) (other.attempt operation outcomeToo) := by
  unfold Machine.attempt
  rw [alike.faults]
  cases other.faults operation with
  | some text => exact .error _
  | none => exact same

/-- A file is discarded with the same words. -/
theorem Alike.discard (alike : Alike hidden one other) (operation : Operation) (what : String)
    (path : Bytes) :
    Alike hidden (one.discard operation what path) (other.discard operation what path) := by
  have tries := alike.trying operation
  unfold Machine.discard
  obtain ⟨error, failed, failedToo⟩ | ⟨files, filesToo, done, doneToo, same⟩ :=
    tries.attempt operation (alike.files.remove path)
  · simp only [Machine.trying] at failed failedToo ⊢
    simp only [failed, failedToo]
    cases error with
    | notFound => exact tries
    | _ => exact tries.note _
  · simp only [Machine.trying] at done doneToo ⊢
    simp only [done, doneToo]
    exact (tries.refiled same).note _

/-! ## Sockets and ports -/

theorem Alike.connect (alike : Alike hidden one other) (path : Bytes) :
    one.connect path = other.connect path := by
  have found := alike.files.find path
  have answers : one.answer = other.answer := alike.seen answer fun _ _ => rfl
  have names : one.connectAbstract = other.connectAbstract :=
    alike.seen connectAbstract fun _ _ => rfl
  unfold Machine.connect
  split
  · exact congrFun names _
  · cases checkSocketPath path with
    | error error => rfl
    | ok valid =>
        revert found
        simp only [answers]
        rcases one.files.find path with error | ⟨place, node⟩ <;>
          rcases other.files.find path with errorToo | ⟨placeToo, nodeToo⟩
        · rintro ⟨⟩
          rfl
        · nofun
        · nofun
        · intro found
          replace found : node.blank = nodeToo.blank := Except.ok.inj found
          cases node <;> cases nodeToo <;> cases found <;> rfl

theorem Alike.bindAbstract (alike : Alike hidden one other) (name : Bytes) :
    Likewise (EndAlike hidden) (one.bindAbstract name) (other.bindAbstract name) := by
  obtain ⟨files⟩ := alike
  exact .ite _ (.error _) (.ite _ (.error _) (.ok ⟨rfl, .intro files⟩))

theorem Alike.withEndpoint (alike : Alike hidden one other) (answer : Option IoError) :
    EndAlike hidden (one.withEndpoint answer) (other.withEndpoint answer) := by
  obtain ⟨files⟩ := alike
  exact ⟨rfl, .intro files⟩

theorem Alike.bindSocket (alike : Alike hidden one other) (path : Bytes)
    (answer : Option IoError) :
    Likewise (EndAlike hidden) (one.bindSocket path answer) (other.bindSocket path answer) := by
  have fresh : one.fresh = other.fresh := alike.seen Machine.fresh fun _ _ => rfl
  unfold Machine.bindSocket
  split
  · exact .ok (alike.withEndpoint answer)
  · exact alike.bindAbstract _
  · cases checkSocketPath path with
    | error error => exact .error error
    | ok valid =>
        simp only [← fresh]
        obtain ⟨error, failed, failedToo⟩ | ⟨files, filesToo, done, doneToo, same⟩ :=
          alike.files.makeSocket path one.fresh
        · simp only [failed, failedToo]
          exact .error error
        · simp only [done, doneToo]
          have bound := (alike.refiled same).withEndpoint answer
          simp only [← fresh] at bound
          exact .ok bound

theorem Alike.bindPort (alike : Alike hidden one other) (host : String) (port : Nat) :
    Likewise (EndAlike hidden) (one.bindPort host port) (other.bindPort host port) := by
  obtain @⟨files, same⟩ := alike
  simp only [Machine.bindPort]
  cases one.listen one.ports host port with
  | error error => exact .error error
  | ok taken => exact .ok ⟨rfl, .intro same⟩

/-! ## What others do -/

theorem Alike.withFiles (alike : Alike hidden one other)
    {outcome outcomeToo : Except IoError FileSystem}
    (same : Likewise (FileSystem.Alike hidden) outcome outcomeToo) :
    Alike hidden (one.withFiles outcome) (other.withFiles outcomeToo) := by
  obtain ⟨error, rfl, rfl⟩ | ⟨files, filesToo, rfl, rfl, same⟩ := same
  · exact alike
  · exact alike.refiled same

theorem Alike.withSocket (alike : Alike hidden one other) (path : Bytes) (answer : Option IoError) :
    Alike hidden (one.withSocket path answer) (other.withSocket path answer) := by
  unfold Machine.withSocket
  obtain ⟨error, failed, failedToo⟩ | ⟨endpoint, bound, boundToo, done, doneToo, same⟩ :=
    EndAlike.likewise_cases (alike.bindSocket path answer)
  · simp only [failed, failedToo]
    exact alike
  · simp only [done, doneToo]
    exact same

/-- What others do to files, they do whatever is in them. -/
theorem Alike.disturbed (alike : Alike hidden one other) (disturbance : Disturbance) :
    Alike hidden (one.disturbed disturbance) (other.disturbed disturbance) := by
  cases disturbance with
  | makeDirectory path mode =>
      have made : Alike hidden
          { one with files := (one.files.makeTree one.umask path).2 }
          { other with files := (other.files.makeTree other.umask path).2 } := by
        have made := (alike.files.makeTree one.umask path).2
        exact alike.refiled (alike.umask ▸ made)
      cases mode with
      | none => exact made
      | some mode =>
          exact made.refiled (made.files.changed (·.changeMode path mode) fun _ =>
            FileSystem.changeMode_blank hidden path mode)
  | write path content => exact alike.withFiles (alike.files.write path content)
  | remove path =>
      exact alike.refiled (alike.files.changed (·.removeTree path) fun _ =>
        FileSystem.removeTree_blank hidden path)
  | link path target =>
      exact alike.refiled (alike.files.changed (·.makeLink path target) fun _ =>
        FileSystem.makeLink_blank hidden path target)
  | staleSocket path =>
      simp only [Machine.disturbed]
      obtain ⟨error, failed, failedToo⟩ | ⟨endpoint, bound, boundToo, done, doneToo, same⟩ :=
        EndAlike.likewise_cases (alike.bindSocket path none)
      · simp only [failed, failedToo]
        exact alike
      · simp only [done, doneToo]
        exact same.release endpoint
  | listener path => exact alike.withSocket path _
  | datagramSocket path => exact alike.withSocket path _

end Machine

end ListExpansion
