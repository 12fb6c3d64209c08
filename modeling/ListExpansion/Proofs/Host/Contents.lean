/-
# ListExpansion.Proofs.Host.Contents -- what hangs on the content of a file

Nothing does but the reading of it.  `FileSystem.blank` takes the content out of the files at
some places; all lookups go the same way with and without it (`walk_blank`, `entry_blank`), and
so do all changes (`makeTree_blank`, `remove_blank`, `write_blank` and the rest).
-/
import ListExpansion.Host.Disturbance

namespace ListExpansion

set_option autoImplicit false

/-! ## Nodes without content -/

/-- The node with no content, if it has any. -/
def Node.blank : Node → Node
  | .file _ => .file []
  | node => node

/-- The node as it shows from outside; what is hidden is the content of files at some places. -/
def Node.shown (hidden : Place → Bool) (place : Place) (node : Node) : Node :=
  if hidden place then node.blank else node

namespace Node

variable (hidden : Place → Bool) (place : Place) (node : Node)

theorem shown_cases : node.shown hidden place = node ∨
    ∃ content, node = .file content ∧ node.shown hidden place = .file [] := by
  unfold shown
  split
  · cases node with
    | file content => exact .inr ⟨content, rfl, rfl⟩
    | _ => exact .inl rfl
  · exact .inl rfl

@[simp] theorem isDirectory_shown : (node.shown hidden place).isDirectory = node.isDirectory := by
  obtain same | ⟨content, rfl, same⟩ := node.shown_cases hidden place <;> rw [same]
  rfl

@[simp] theorem access_shown : (node.shown hidden place).access = node.access := by
  obtain same | ⟨content, rfl, same⟩ := node.shown_cases hidden place <;> rw [same]
  rfl

@[simp] theorem blank_shown : (node.shown hidden place).blank = node.blank := by
  obtain same | ⟨content, rfl, same⟩ := node.shown_cases hidden place <;> rw [same]
  rfl

@[simp] theorem shown_shown : (node.shown hidden place).shown hidden place =
    node.shown hidden place := by
  unfold shown
  split
  · cases node <;> rfl
  · rfl

@[simp] theorem shown_link (target : Bytes) :
    (link target).shown hidden place = .link target := by
  unfold shown
  split <;> rfl

@[simp] theorem shown_directory (mode : Nat) (own : Bool) :
    (directory mode own).shown hidden place = .directory mode own := by
  unfold shown
  split <;> rfl

@[simp] theorem shown_socket (endpoint : Nat) :
    (socket endpoint).shown hidden place = .socket endpoint := by
  unfold shown
  split <;> rfl

@[simp] theorem shown_special (content : Option Bytes) (takes : Bool) :
    (special content takes).shown hidden place = .special content takes := by
  unfold shown
  split <;> rfl

end Node

def Spot.shown (hidden : Place → Bool) : Spot → Spot
  | .taken place node => .taken place (node.shown hidden place)
  | .vacant directory name => .vacant directory name

namespace FileSystem

variable (hidden : Place → Bool) {files other : FileSystem} {path : Bytes} {place : Place}

/-- The files with the content of the hidden ones taken out. -/
def blank (files : FileSystem) : FileSystem :=
  { files with nodes := files.nodes.map fun (place, node) => (place, node.shown hidden place) }

theorem lookup_blank (files : FileSystem) (place : Place) :
    (files.blank hidden).lookup place = (files.lookup place).map (Node.shown hidden place) := by
  unfold lookup blank
  induction files.nodes with
  | nil => rfl
  | cons first rest ih =>
      obtain ⟨here, node⟩ := first
      simp only [List.map_cons, List.lookup_cons]
      cases hit : place == here with
      | true => rw [eq_of_beq hit]; rfl
      | false => exact ih

/-- Which places are kept is a matter of the places alone. -/
theorem filter_blank (kept : Place → Bool) (nodes : List (Place × Node)) :
    (nodes.map fun (place, node) => (place, node.shown hidden place)).filter
        (fun entry => kept entry.1) =
      (nodes.filter fun entry => kept entry.1).map
        fun (place, node) => (place, node.shown hidden place) :=
  List.filter_map

theorem erase_blank (files : FileSystem) (place : Place) :
    (files.erase place).blank hidden = (files.blank hidden).erase place :=
  congrArg (FileSystem.mk · files.current)
    (filter_blank hidden (fun other => decide (other ≠ place)) files.nodes).symm

theorem put_blank (files : FileSystem) (place : Place) (node : Node) :
    (files.put place node).blank hidden =
      (files.blank hidden).put place (node.shown hidden place) :=
  congrArg (fun nodes => FileSystem.mk ((place, node.shown hidden place) :: nodes) files.current)
    (filter_blank hidden (fun other => decide (other ≠ place)) files.nodes).symm

theorem blank_blank (files : FileSystem) :
    (files.blank hidden).blank hidden = files.blank hidden := by
  simp [blank, Function.comp_def]

/-! ## Lookups -/

@[simp] theorem enterable_blank (files : FileSystem) (place : Place) :
    (files.blank hidden).enterable place = files.enterable place := by
  unfold enterable
  rw [lookup_blank]
  cases files.lookup place with
  | none => rfl
  | some node => simp

@[simp] theorem changeable_blank (files : FileSystem) (place : Place) :
    (files.blank hidden).changeable place = files.changeable place := by
  unfold changeable
  rw [lookup_blank]
  cases files.lookup place with
  | none => rfl
  | some node => simp

theorem walkWith_blank (purpose : Purpose)
    {follow followToo : Place → Bool → List Bytes → Except IoError Spot}
    (follows : ∀ here closed way,
      followToo here closed way = (follow here closed way).map (Spot.shown hidden))
    (way : List Bytes) (here : Place) (closed : Bool) :
    (files.blank hidden).walkWith purpose followToo here closed way =
      (files.walkWith purpose follow here closed way).map (Spot.shown hidden) := by
  induction way generalizing here closed with
  | nil =>
      unfold walkWith
      rw [lookup_blank]
      cases files.lookup here with
      | none => rfl
      | some node =>
          simp only [Option.map_some, Node.isDirectory_shown]
          split <;> rfl
  | cons segment rest ih =>
      unfold walkWith
      rw [enterable_blank, lookup_blank]
      cases files.enterable here with
      | error error => rfl
      | ok enters =>
          simp only
          split
          · exact ih here closed
          split
          · exact ih here.dropLast closed
          split
          · rfl
          split
          · rfl
          cases there : files.lookup (here ++ [segment]) with
          | none =>
              simp only [Option.map_none]
              split <;> rfl
          | some node =>
              cases node with
              | link target =>
                  simp only [Option.map_some, Node.shown_link]
                  exact follows _ _ _
              | file content =>
                  obtain same | ⟨_, _, same⟩ :=
                    (Node.file content).shown_cases hidden (here ++ [segment]) <;>
                  simp only [Option.map_some, same] <;> exact ih _ closed
              | directory mode own =>
                  simp only [Option.map_some, Node.shown_directory]
                  exact ih _ closed
              | socket endpoint =>
                  simp only [Option.map_some, Node.shown_socket]
                  exact ih _ closed
              | special content takes =>
                  simp only [Option.map_some, Node.shown_special]
                  exact ih _ closed

theorem walk_blank (purpose : Purpose) (links : Nat) (way : List Bytes) (here : Place)
    (closed : Bool) :
    (files.blank hidden).walk purpose links here closed way =
      (files.walk purpose links here closed way).map (Spot.shown hidden) := by
  induction links generalizing way here closed with
  | zero => rfl
  | succ links ih =>
      exact walkWith_blank hidden purpose (fun here closed way => ih way here closed) way here
        closed

theorem locate_blank (purpose : Purpose) (path : Bytes) :
    (files.blank hidden).locate purpose path =
      (files.locate purpose path).map (Spot.shown hidden) := by
  unfold locate
  cases checkPath path with
  | error error => rfl
  | ok valid => exact walk_blank hidden purpose _ _ _ _

theorem find_blank (path : Bytes) :
    (files.blank hidden).find path =
      (files.find path).map fun (place, node) => (place, node.shown hidden place) := by
  unfold find
  rw [locate_blank]
  rcases files.locate .finding path with error | ⟨place, node⟩ | ⟨directory, name⟩ <;> rfl

@[simp] theorem exists?_blank (path : Bytes) :
    (files.blank hidden).exists? path = files.exists? path := by
  unfold exists?
  rw [find_blank]
  cases files.find path with
  | ok found => rfl
  | error error => cases error <;> rfl

@[simp] theorem isDirectory_blank (path : Bytes) :
    (files.blank hidden).isDirectory path = files.isDirectory path := by
  unfold isDirectory
  rw [find_blank]
  cases files.find path with
  | error error => rfl
  | ok found => exact Node.isDirectory_shown hidden _ _

/-- An entry as it shows from outside. -/
def Entry.shown : Entry → Entry
  | .unnamed place => .unnamed place
  | .named directory name node =>
      .named directory name (node.map (Node.shown hidden (directory ++ [name])))

theorem entry_blank (path : Bytes) :
    (files.blank hidden).entry path = (files.entry path).map (Entry.shown hidden) := by
  unfold entry
  cases checkPath path with
  | error error => rfl
  | ok valid =>
      simp only
      split
      · rfl
      · have origin : (files.blank hidden).origin path = files.origin path := rfl
        rw [walk_blank, origin]
        rcases files.walk .finding (linkLimit + 1) (files.origin path) false _ with
          error | ⟨place, node⟩ | ⟨directory, name⟩
        · rfl
        · simp only [Except.map, Spot.shown, enterable_blank, lookup_blank]
          split
          · rfl
          · split
            · rfl
            split
            · rfl
            split <;> rfl
        · rfl

/-- What is at a path is the same but for its content. -/
theorem inspect_blank (path : Bytes) :
    ((files.blank hidden).inspect path).map Node.blank = (files.inspect path).map Node.blank := by
  unfold inspect
  rw [find_blank, entry_blank]
  split
  · rcases files.find path with error | ⟨place, node⟩
    · rfl
    · exact congrArg Except.ok (Node.blank_shown hidden place node)
  · rcases files.entry path with error | place | ⟨directory, name, _ | node⟩
    · rfl
    · simp only [Except.map, Entry.shown, lookup_blank]
      cases files.lookup place with
      | none => rfl
      | some node => exact congrArg Except.ok (Node.blank_shown hidden place node)
    · rfl
    · exact congrArg Except.ok (Node.blank_shown hidden (directory ++ [name]) node)

/-! ## Changes -/

theorem makeDirectory_blank (umask : Nat) (path : Bytes) :
    (files.blank hidden).makeDirectory umask path =
      (files.makeDirectory umask path).map (blank hidden) := by
  unfold makeDirectory
  rw [entry_blank]
  rcases files.entry path with error | place | ⟨directory, name, _ | node⟩
  · rfl
  · rfl
  · have mode : directoryMode umask ((files.blank hidden).lookup directory) =
        directoryMode umask (files.lookup directory) := by
      rw [lookup_blank]
      cases files.lookup directory with
      | none => rfl
      | some node =>
          obtain same | ⟨content, rfl, same⟩ := node.shown_cases hidden directory <;>
            simp only [Option.map_some, same]
          rfl
    simp only [Except.map, Entry.shown, Option.map_none, changeable_blank, mode]
    split
    · simp only [put_blank, Node.shown_directory]
    · rfl
  · rfl

@[simp] theorem settled_blank (path : Bytes) (error : IoError) :
    (files.blank hidden).settled path error = files.settled path error := by
  rw [settled, settled, isDirectory_blank]

theorem makeDirectories_blank (umask fuel : Nat) (path : Bytes) :
    (files.blank hidden).makeDirectories umask fuel path =
      Prod.map id (blank hidden) (files.makeDirectories umask fuel path) := by
  induction fuel generalizing files path with
  | zero => rfl
  | succ fuel ih =>
      have outcome (files : FileSystem) (error : IoError) :
          ((files.blank hidden).settled path error, files.blank hidden) =
            Prod.map id (blank hidden) (files.settled path error, files) := by
        rw [settled_blank]
        rfl
      unfold makeDirectories
      split
      · rfl
      rw [makeDirectory_blank]
      cases files.makeDirectory umask path with
      | ok made => rfl
      | error error =>
          cases error with
          | notFound =>
              simp only [Except.map]
              cases Path.parent? path with
              | none => rfl
              | some parent =>
                  simp only [ih]
                  rcases files.makeDirectories umask fuel parent with ⟨error | -, above⟩
                  · rfl
                  · simp only [Prod.map, id, makeDirectory_blank]
                    cases above.makeDirectory umask path with
                    | ok made => rfl
                    | error error => exact outcome above error
          | _ => exact outcome files _

theorem makeTree_blank (umask : Nat) (path : Bytes) :
    (files.blank hidden).makeTree umask path =
      Prod.map id (blank hidden) (files.makeTree umask path) :=
  makeDirectories_blank hidden umask _ path

theorem remove_blank (path : Bytes) :
    (files.blank hidden).remove path = (files.remove path).map (blank hidden) := by
  unfold remove
  rw [entry_blank]
  rcases files.entry path with error | place | ⟨directory, name, _ | node⟩
  · rfl
  · rfl
  · rfl
  · simp only [Except.map, Entry.shown, Option.map_some, Node.isDirectory_shown, changeable_blank]
    split
    · rfl
    split
    · split
      · rfl
      · simp only [erase_blank]
    · rfl

theorem makeSocket_blank (path : Bytes) (endpoint : Nat) :
    (files.blank hidden).makeSocket path endpoint =
      (files.makeSocket path endpoint).map (blank hidden) := by
  unfold makeSocket
  rw [entry_blank]
  rcases files.entry path with error | place | ⟨directory, name, _ | node⟩
  · rfl
  · rfl
  · simp only [Except.map, Entry.shown, Option.map_none, changeable_blank]
    split
    · rfl
    split
    · simp only [put_blank, Node.shown_socket]
    · rfl
  · rfl

/-- What is written does not depend on what else is in files. -/
theorem write_blank (path content : Bytes) :
    ((files.blank hidden).write path content).map (blank hidden) =
      (files.write path content).map (blank hidden) := by
  unfold write
  rw [locate_blank]
  rcases files.locate .writing path with error | ⟨place, node⟩ | ⟨directory, name⟩
  · rfl
  · cases node with
    | file old =>
        obtain same | ⟨_, _, same⟩ := (Node.file old).shown_cases hidden place <;>
          simp only [Except.map, Spot.shown, same, put_blank, blank_blank]
    | directory mode own => simp only [Except.map, Spot.shown, Node.shown_directory]
    | link target => simp only [Except.map, Spot.shown, Node.shown_link]
    | socket endpoint => simp only [Except.map, Spot.shown, Node.shown_socket]
    | special content takes =>
        simp only [Except.map, Spot.shown, Node.shown_special]
        cases takes with
        | true => exact congrArg Except.ok (blank_blank hidden files)
        | false => rfl
  · by_cases allowed : files.changeable directory = true
    · simp only [Except.map, Spot.shown, changeable_blank, if_pos allowed, put_blank, blank_blank]
    · simp only [Except.map, Spot.shown, changeable_blank, if_neg allowed]

theorem removeTree_blank (path : Bytes) :
    (files.blank hidden).removeTree path = (files.removeTree path).blank hidden := by
  unfold removeTree
  rw [entry_blank]
  rcases files.entry path with error | place | ⟨directory, name, _ | node⟩
  · rfl
  · rfl
  · rfl
  · exact congrArg (FileSystem.mk · files.current)
      (filter_blank hidden (fun other => !(directory ++ [name]).isPrefixOf other) files.nodes)

theorem makeLink_blank (path target : Bytes) :
    (files.blank hidden).makeLink path target = (files.makeLink path target).blank hidden := by
  unfold makeLink
  rw [entry_blank]
  rcases files.entry path with error | place | ⟨directory, name, _ | node⟩
  · rfl
  · rfl
  · simp only [Except.map, Entry.shown, Option.map_none, put_blank, Node.shown_link]
  · rfl

theorem changeMode_blank (path : Bytes) (mode : Nat) :
    (files.blank hidden).changeMode path mode = (files.changeMode path mode).blank hidden := by
  unfold changeMode
  rw [find_blank]
  rcases files.find path with error | ⟨place, node⟩
  · rfl
  · cases node with
    | directory mode own => simp only [Except.map, Node.shown_directory, put_blank]
    | file content =>
        obtain same | ⟨_, _, same⟩ := (Node.file content).shown_cases hidden place <;>
          simp only [Except.map, same]
    | link target => simp only [Except.map, Node.shown_link]
    | socket endpoint => simp only [Except.map, Node.shown_socket]
    | special content takes => simp only [Except.map, Node.shown_special]

end FileSystem

end ListExpansion
