import Dicer.Errors
import Dicer.FileTree.Walk

namespace Dicer.Archive

open FileTree

/-!
# Unpacking an archive

An archive is read entry by entry and each entry is created through a root opened on a directory,
which `placement` chose from the destination.  What a root does with a path is what `FileTree.walk`
says: it follows links, but not out of the directory.

Any operation may be refused by the host, for reasons of its own; `Host.refuses` says which are.
The disk keeps a record of every real path that was created, removed, replaced, written or given a
mode or times, and of every visit: the disk as it stood when an entry, or the finishing of a
directory, came up.
-/

inductive Kind
  | dir
  /-- The content, and whether the stream held all of it. -/
  | regular (content : String) (complete : Bool)
  | symlink (target : String)
  | other
  deriving DecidableEq, Repr

structure Header where
  name : String
  kind : Kind
  mode : Nat
  modTime : Nat
  deriving DecidableEq, Repr

/-- The entries of a stream, and the error it ends in if it does not end well. -/
structure Stream where
  headers : List Header
  broken : Option String

/-- A path with its empty, dot and dot-dot elements worked out, as far as the text allows. -/
structure Clean where
  rooted : Bool
  names : List String
  deriving DecidableEq, Repr

def cleanName (rooted : Bool) (names : List String) (name : String) : List String :=
  if name = "" ∨ name = "." then names
  else if name = ".." then
    match names.getLast? with
    | some last => if last = ".." then names ++ [".."] else names.dropLast
    | none => if rooted then [] else [".."]
  else names ++ [name]

def clean (text : String) : Clean :=
  let rooted := isAbsolute text
  ⟨rooted, (components text).foldl (cleanName rooted) []⟩

def textOf (names : List String) : String :=
  if names = [] then "." else "/".intercalate names

namespace Clean

variable (path : Clean)

def text : String :=
  if path.rooted then "/" ++ "/".intercalate path.names else textOf path.names

def isLocal : Bool :=
  !path.rooted && path.names.head? != some ".."

def parent : Clean :=
  { path with names := path.names.dropLast }

def base : String :=
  path.names.getLast?.getD (if path.rooted then "/" else ".")

end Clean

def trimDot (text : String) : String :=
  match text.toList with
  | '.' :: '/' :: rest => String.ofList rest
  | _ => text

def topLevel (name : String) : String :=
  String.ofList ((trimDot name).toList.takeWhile (· != '/'))

def entryPath (entry top to_ : String) : Except String (List String) :=
  let path := clean (trimDot entry)
  if !path.isLocal || topLevel path.text != top then
    throw ("archive entry " ++ quoted entry ++ " is outside " ++ quoted top)
  else if to_ = "" then pure path.names
  else pure (to_ :: path.names.tail)

example : entryPath "./top/a//b/../c" "top" "new" = .ok ["new", "a", "c"] := by decide +kernel

example : (entryPath "top/../etc" "top" "").toOption = none := by decide +kernel

structure Node where
  shape : Shape
  mode : Nat
  modTime : Nat
  content : String
  deriving DecidableEq, Repr

abbrev Tree := Path → Option Node

def Tree.look (tree : Tree) : Look :=
  fun path => (tree path).map Node.shape

inductive Task
  | enter (kind : Kind)
  | finish
  deriving DecidableEq, Repr

structure Visit where
  tree : Tree
  clock : Nat
  task : Task
  rel : List String

/-- The tree, and how many operations there have been.  `touched` and `visits` record what was
done. -/
structure Disk where
  tree : Tree
  clock : Nat
  touched : List Path
  visits : List Visit

def Disk.fresh (tree : Tree) : Disk :=
  ⟨tree, 0, [], []⟩

/-- An error of unpacking; `notExist` is what `fs.ErrNotExist` tests for. -/
structure Fault where
  notExist : Bool
  text : String
  deriving DecidableEq, Repr

/-- The receiving host: its working directory, how many links it takes on one path, and which
operations it refuses. -/
structure Host where
  workingDir : Path
  links : Nat
  refuses : Nat → Option String

structure Root where
  host : Host
  base : Path

abbrev Run := ExceptT Fault (StateM Disk)

def missing : Fault := ⟨true, "no such file or directory"⟩

def exists_ : Fault := ⟨false, "file exists"⟩

def ofLost : Lost → Fault
  | .missing => missing
  | .notDirectory => ⟨false, "not a directory"⟩
  | .escapes => ⟨false, "path escapes from parent"⟩
  | .loops => ⟨false, "too many levels of symbolic links"⟩

/-! ## Operations -/

def operate (host : Host) : Run Unit := do
  let disk ← get
  set { disk with clock := disk.clock + 1 }
  match host.refuses disk.clock with
  | some text => throw ⟨false, text⟩
  | none => pure ()

def place (node : Option Node) (at_ : Path) : Run Unit :=
  modify fun disk =>
    { disk with tree := Function.update disk.tree at_ node, touched := at_ :: disk.touched }

def stat (host : Host) (path : Clean) : Run (Path × Node) := do
  operate host
  let disk ← get
  match resolve disk.tree.look host.links (if path.rooted then [] else host.workingDir) path.names
      with
  | .error lost => throw (ofLost lost)
  | .ok real =>
    match disk.tree real with
    | none => throw missing
    | some node => pure (real, node)

def openRoot (host : Host) (path : Clean) : Run Root := do
  let (real, node) ← stat host path
  if node.shape = .dir then pure ⟨host, real⟩ else throw ⟨false, "not a directory"⟩

namespace Root

variable (root : Root)

def locate (follow : Bool) (rel : List String) : Run Path := do
  operate root.host
  let disk ← get
  match walk disk.tree.look root.base follow root.host.links [] rel with
  | .error lost => throw (ofLost lost)
  | .ok path => pure path

variable (rel : List String)

def lstat : Run Node := do
  let path ← root.locate false rel
  match (← get).tree path with
  | none => throw missing
  | some node => pure node

def remove : Run Unit := do
  let path ← root.locate false rel
  match (← get).tree path with
  | none => throw missing
  | some node => if node.shape = .dir then throw ⟨false, "directory not empty"⟩ else place none path

def create (node : Node) (rel : List String) : Run Path := do
  let path ← root.locate false rel
  match (← get).tree path with
  | none => do
    place (some node) path
    pure path
  | some _ => throw exists_

def mkdir (mode : Nat) : Run Unit := do
  let _ ← root.create ⟨.dir, mode, 0, ""⟩ rel

def openFile (mode : Nat) : Run Path :=
  root.create ⟨.file, mode, 0, ""⟩ rel

def symlink (target : String) (rel : List String) : Run Unit := do
  if target = "" then throw missing
  let _ ← root.create ⟨.link target, 0, 0, ""⟩ rel

/-- Change what a path leads to, through a link at its end. -/
def amend (change : Node → Node) (rel : List String) : Run Unit := do
  let path ← root.locate true rel
  match (← get).tree path with
  | none => throw missing
  | some node => place (some (change node)) path

def chmod (mode : Nat) : Run Unit :=
  root.amend (fun node => { node with mode := mode }) rel

def chtimes (modTime : Nat) : Run Unit :=
  root.amend (fun node => { node with modTime := modTime }) rel

end Root

variable (host : Host)

/-- Write to the file opened at a path. -/
def write (file : Path) (content : String) : Run Unit := do
  operate host
  match (← get).tree file with
  | none => throw missing
  | some node => place (some { node with content := content }) file

/-- Note that an entry, or the finishing of a directory, came up. -/
def visit (task : Task) (rel : List String) : Run Unit :=
  modify fun disk => { disk with visits := ⟨disk.tree, disk.clock, task, rel⟩ :: disk.visits }

/-- A run whose error is looked at rather than passed on. -/
def attempt {Value : Type} (run : Run Value) : Run (Except Fault Value) :=
  ExceptT.lift run.run

variable (root : Root)

def makeDir (rel : List String) : Run Bool := do
  match ← attempt (root.lstat rel) with
  | .ok node =>
    if node.shape ≠ .dir then
      throw ⟨false, "cannot replace " ++ textOf rel ++ " with a directory"⟩
    else pure false
  | .error fault => do
    if !fault.notExist then throw fault
    root.mkdir rel 0o700
    pure true

def removeUnlessDir (rel : List String) : Run Unit := do
  match ← attempt (root.lstat rel) with
  | .ok node =>
    if node.shape = .dir then
      throw ⟨false, "cannot replace directory " ++ textOf rel ++ " with a file"⟩
    else root.remove rel
  | .error fault => if fault.notExist then pure () else throw fault

def unpackEntry (header : Header) (rel : List String) : Run Bool := do
  visit (.enter header.kind) rel
  match header.kind with
  | .dir => makeDir root rel
  | .regular content complete => do
    removeUnlessDir root rel
    let file ← root.openFile rel header.mode
    write root.host file content
    if !complete then throw ⟨false, "unexpected EOF"⟩
    root.chmod rel header.mode
    root.chtimes rel header.modTime
    pure true
  | .symlink target => do
    removeUnlessDir root rel
    root.symlink target rel
    pure true
  | .other => pure false

def finishDir (header : Header) (rel : List String) : Run Unit := do
  visit .finish rel
  root.chmod rel header.mode
  root.chtimes rel header.modTime

def placement (dest : Clean) (isDir : Bool) : Run (Clean × String) := do
  let beside : Run (Clean × String) := do
    match ← attempt (stat host dest.parent) with
    | .ok (_, node) =>
      if node.shape = .dir then pure (dest.parent, dest.base)
      else throw ⟨false, dest.parent.text ++ " is not a directory"⟩
    | .error _ => throw ⟨false, dest.parent.text ++ " is not a directory"⟩
  match ← attempt (stat host dest) with
  | .ok (_, node) =>
    if node.shape = .dir then pure (dest, "")
    else if isDir then throw ⟨false, "cannot copy a directory over the file " ++ dest.text⟩
    else beside
  | .error fault => if fault.notExist then beside else throw fault

/-- The entries in turn, with the directories they created so far, the latest first. -/
def unpackEntries (root : Root) (top name : String) (broken : Option String) :
    List Header → List (Header × List String) →
    StateM Disk (Except Fault Unit × List (Header × List String))
  | [], dirs =>
    match broken with
    | none => pure (.ok (), dirs)
    | some text => pure (.error ⟨false, "read archive: " ++ text⟩, dirs)
  | header :: rest, dirs =>
    match entryPath header.name top name with
    | .error text => pure (.error ⟨false, text⟩, dirs)
    | .ok rel => do
      match ← (unpackEntry root header rel).run with
      | .error fault => pure (.error { fault with text := textOf rel ++ ": " ++ fault.text }, dirs)
      | .ok created =>
        if created && header.kind = .dir then
          unpackEntries root top name broken rest ((header, rel) :: dirs)
        else unpackEntries root top name broken rest dirs

def finishDirs (root : Root) : List (Header × List String) → Except Fault Unit →
    StateM Disk (Except Fault Unit)
  | [], result => pure result
  | (header, rel) :: rest, result => do
    match result, ← (finishDir root header rel).run with
    | .ok _, .error fault =>
      finishDirs root rest (.error { fault with text := textOf rel ++ ": " ++ fault.text })
    | _, _ => finishDirs root rest result

/-- Where an archive's top-level entry lands, and the root it is created in. -/
def openPlace (stream : Stream) (dest : String) : Run (Root × String × String) := do
  match stream.headers, stream.broken with
  | [], none => throw ⟨false, "the archive is empty"⟩
  | [], some text => throw ⟨false, "read archive: " ++ text⟩
  | first :: _, _ => do
    let (dir, name) ← placement host (clean dest) (first.kind = .dir)
    let root ← openRoot host dir
    pure (root, topLevel first.name, name)

def unpack (stream : Stream) (dest : String) : Run Unit := do
  let (root, top, name) ← openPlace host stream dest
  let unpacked : StateM Disk (Except Fault Unit) := do
    let (result, dirs) ← unpackEntries root top name stream.broken stream.headers []
    finishDirs root dirs result
  ExceptT.mk unpacked

/-- The real path of the one top-level entry: the destination, or what the archive names inside
it. -/
def chosen (top name : String) : Path :=
  if name ≠ "" then root.base ++ [name]
  else if top = "." then root.base
  else root.base ++ [top]

end Dicer.Archive
