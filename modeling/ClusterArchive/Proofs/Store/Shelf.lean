import ClusterArchive.Proofs.Store

/-! A store as a map from names to what lies under them. The rules say of each operation what it
answers and what it leaves, by the map alone. -/

namespace ClusterArchive.Store

/-- Writes to the file of a name, if there is one, as who made it does. -/
def write (store : Store) (volume : Volume) (name : String) (contents : Contents) (now : Instant) :
    Except RunError Volume := do
  checkName name
  match volume.find false (store.pathOf name) with
  | .ok (location, .file ..) => .ok (volume.put location (.file contents now))
  | _ => .ok volume

inductive Operation
  | ensureDirectory
  | list
  | ensureAvailable (name : String)
  | create (name : String) (now : Instant)
  | write (name : String) (contents : Contents) (now : Instant)
  | «open» (name : String)
  | delete (name : String)

def Operation.name? : Operation → Option String
  | .ensureDirectory | .list => none
  | .ensureAvailable name | .create name _ | .write name _ _ | .open name | .delete name => some name

def Operation.deleted? : Operation → Option String
  | .delete name => some name
  | _ => none

inductive Answer
  | done
  | archives (archives : List ArchiveInfo)
  | created (location : Location)
  | opened (opened : Volume.Opened)
  | deleted (found : Bool)
  | failed (error : RunError)

def Answer.of {α : Type} (succeed : α → Answer) : Except RunError α → Answer
  | .ok result => succeed result
  | .error error => .failed error

def perform (store : Store) (volume : Volume) : Operation → Answer × Volume
  | .ensureDirectory =>
    let (outcome, after) := store.ensureDirectory volume
    (.of (fun _ => .done) outcome, after)
  | .list => (.of .archives (store.list volume), volume)
  | .ensureAvailable name => (.of (fun _ => .done) (store.ensureAvailable volume name), volume)
  | .create name now =>
    let (outcome, after) := store.create volume name now
    (.of .created outcome, after)
  | .write name contents now =>
    match store.write volume name contents now with
    | .ok after => (.done, after)
    | .error error => (.failed error, volume)
  | .open name => (.of .opened (store.open volume name), volume)
  | .delete name =>
    match store.delete volume name with
    | .ok (found, after) => (.deleted found, after)
    | .error error => (.failed error, volume)

def run (store : Store) (volume : Volume) : List Operation → List Answer × Volume
  | [] => ([], volume)
  | operation :: rest =>
    let (answer, after) := store.perform volume operation
    let (answers, last) := store.run after rest
    (answer :: answers, last)

/-- The directory of a store: whether it is there, and what lies under each name. -/
structure Shelf where
  present : Bool
  node? : String → Option Node

namespace Shelf

def put (shelf : Shelf) (name : String) (node : Node) : Shelf :=
  ⟨true, fun other => if name = other then some node else shelf.node? other⟩

def drop (shelf : Shelf) (name : String) : Shelf :=
  { shelf with node? := fun other => if name = other then none else shelf.node? other }

end Shelf

/-- The rules of a store whose directory is at a place. -/
inductive Does (store : Store) (place : Location) (shelf : Shelf) : Operation → Answer → Shelf → Prop
  | refused {operation : Operation} {name message : String} (named : operation.name? = some name)
      (other : ¬IsName name) : Does store place shelf operation (.failed (.validation message)) shelf
  | ensured : Does store place shelf .ensureDirectory .done { shelf with present := true }
  | listed {archives : List ArchiveInfo}
      (ascending : archives.Pairwise fun first second => first.name < second.name)
      (members : ∀ info, info ∈ archives ↔ ∃ contents stem,
        shelf.node? info.name = some (.file contents info.modified) ∧
        stem ≠ "" ∧ info.name = "cluster-backup-" ++ stem ++ "." ++ store.extension ∧
        info.path = store.pathOf info.name ∧ info.size = contents.size) :
      Does store place shelf .list (.archives archives) shelf
  | available {name : String} (is : IsName name) (free : shelf.node? name = none) :
      Does store place shelf (.ensureAvailable name) .done shelf
  | unavailable {name : String} {node : Node} (is : IsName name)
      (taken : shelf.node? name = some node) : Does store place shelf (.ensureAvailable name)
        (.failed (.archiveExists (store.pathOf name))) shelf
  | created {name : String} {now : Instant} (is : IsName name) (free : shelf.node? name = none) :
      Does store place shelf (.create name now) (.created (place ++ [name]))
        (shelf.put name (.file (.ofBytes []) now))
  | taken {name : String} {now : Instant} {node : Node} (is : IsName name)
      (taken : shelf.node? name = some node) : Does store place shelf (.create name now)
        (.failed (.archiveExists (store.pathOf name))) shelf
  | written {name : String} {contents old : Contents} {now since : Instant} (is : IsName name)
      (file : shelf.node? name = some (.file old since)) :
      Does store place shelf (.write name contents now) .done (shelf.put name (.file contents now))
  | unwritten {name : String} {contents : Contents} {now : Instant} (is : IsName name)
      (other : ∀ old since, shelf.node? name ≠ some (.file old since)) :
      Does store place shelf (.write name contents now) .done shelf
  | opened {name : String} {contents : Contents} {since : Instant} (is : IsName name)
      (file : shelf.node? name = some (.file contents since)) :
      Does store place shelf (.open name) (.opened (.file contents)) shelf
  | absent {name : String} (is : IsName name) (free : shelf.node? name = none) :
      Does store place shelf (.open name) (.failed (.archiveNotFound (store.pathOf name))) shelf
  | openedDirectory {name : String} (is : IsName name)
      (directory : shelf.node? name = some .directory) :
      Does store place shelf (.open name) (.opened .directory) shelf
  /-- What a link leads to may lie anywhere. -/
  | followed {name target : String} {answer : Answer} (is : IsName name)
      (link : shelf.node? name = some (.symlink target)) :
      Does store place shelf (.open name) answer shelf
  | deleted {name : String} {node : Node} (is : IsName name) (found : shelf.node? name = some node)
      (other : node ≠ .directory) :
      Does store place shelf (.delete name) (.deleted true) (shelf.drop name)
  | gone {name : String} (is : IsName name) (free : shelf.node? name = none) :
      Does store place shelf (.delete name) (.deleted false) shelf
  | undeletable {name message : String} (is : IsName name)
      (directory : shelf.node? name = some .directory) :
      Does store place shelf (.delete name) (.failed (.retention name message)) shelf

inductive Follows (store : Store) (place : Location) :
    Shelf → List Operation → List Answer → Shelf → Prop
  | done {shelf : Shelf} : Follows store place shelf [] [] shelf
  | step {shelf between final : Shelf} {operation : Operation} {answer : Answer}
      {operations : List Operation} {answers : List Answer}
      (does : Does store place shelf operation answer between)
      (further : Follows store place between operations answers final) :
      Follows store place shelf (operation :: operations) (answer :: answers) final

end ClusterArchive.Store
