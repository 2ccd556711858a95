import Dicer.FileStore.References
import Mathlib.Data.List.AList

namespace Dicer.FileStore

open Function

open Instance (Spec)

/-!
# Instances and their directories

An instance's definition is kept three times: in a map by name, in a directory that bears its name,
beside its overlay disk, and, by its ID, as the name it has.  A call checks what it must, changes
the directory, and only then the maps, and each of its file operations may fail.  What YAML makes of
a definition is left open, except that it reads back what it wrote.

What definitions refer to is not changed by these calls, and is a store of its own here.
-/

/-- How definitions are written to a file and read from one. -/
structure Yaml (Data : Type) where
  marshal : Spec → Except Err Data
  unmarshal : Data → Option Spec
  reads_back : ∀ spec data, marshal spec = .ok data → unmarshal data = some spec

/-- The definition's file and the overlay disk, as far as they are there. -/
structure Directory (Data : Type) where
  config : Option Data
  overlay : Option String
  deriving DecidableEq, Repr

variable {Data : Type}

def Directory.isEmpty (directory : Directory Data) : Bool :=
  directory.config.isNone && directory.overlay.isNone

/-- The directory that holds one directory for each instance. -/
abbrev Tree (Data : Type) := AList fun _ : String => Directory Data

inductive WriteStep
  | createTemp
  | write
  | chmod
  | sync
  | close
  | rename
  deriving DecidableEq, Repr

def WriteStep.message : WriteStep → String
  | createTemp => "create temporary file in "
  | write => "write "
  | chmod => "chmod "
  | sync => "sync "
  | close => "close "
  | rename => "rename "

/-- The file operations that fail during a call.  A removal that fails leaves something of the
directory. -/
structure Faults (Data : Type) where
  mkdir : Bool
  rename : Bool
  write : Option WriteStep
  removeAll : Option (Directory Data)
  deriving DecidableEq, Repr

def Faults.none : Faults Data := ⟨false, false, Option.none, Option.none⟩

def instanceDir (name : String) : String := "instances/" ++ name

namespace Tree

def mkdirAll (tree : Tree Data) (name : String) : Tree Data :=
  match tree.lookup name with
  | some _ => tree
  | none => tree.insert name ⟨none, none⟩

/-- Write a definition by way of a temporary file beside it: one that fails leaves the definition as
it was. -/
def writeDefinition (tree : Tree Data) (yaml : Yaml Data) (faults : Faults Data) (spec : Spec) :
    Except Err (Tree Data) :=
  match yaml.marshal spec, tree.lookup spec.name, faults.write with
  | .error error, _, _ => throw ⟨error.classes, "marshal " ++ instanceDir spec.name ++ ": " ++
      error.message⟩
  | .ok _, none, _ => throw (.host (WriteStep.createTemp.message ++ instanceDir spec.name))
  | .ok _, some _, some step => throw (.host (step.message ++ instanceDir spec.name))
  | .ok data, some directory, none =>
    pure (tree.insert spec.name { directory with config := some data })

/-- Move a directory, which may take the place of an empty one. -/
def rename (tree : Tree Data) (faults : Faults Data) (old new : String) : Except Err (Tree Data) :=
  match tree.lookup old with
  | none => throw (.host ("rename " ++ instanceDir old ++ " to " ++ instanceDir new))
  | some directory =>
    if faults.rename || (tree.lookup new).any fun other => !other.isEmpty then
      throw (.host ("rename " ++ instanceDir old ++ " to " ++ instanceDir new))
    else pure ((tree.erase old).insert new directory)

/-- The definition a directory holds, if it has the directory's name. -/
def placed (tree : Tree Data) (yaml : Yaml Data) (name : String) : Option Spec :=
  ((tree.lookup name).bind fun directory => directory.config.bind yaml.unmarshal).filter
    fun spec => spec.name = name

end Tree

/-- The name of a directory that something is written in before it is moved into place. -/
def isStaging (name : String) : Bool := ".staging-".toList.isPrefixOf name.toList

structure Maps where
  instances : String → Option Spec
  namesByID : String → Option String

namespace Maps

def empty : Maps := ⟨fun _ => none, fun _ => none⟩

variable (maps : Maps)

/-- An instance by name or ID. -/
def lookup (nameOrID : String) : Option Spec :=
  match maps.instances nameOrID with
  | some spec => some spec
  | none =>
    match maps.namesByID nameOrID with
    | some name => some ((maps.instances name).getD default)
    | none => none

def putInstance (spec : Spec) : Maps where
  instances := update maps.instances spec.name (some spec)
  namesByID :=
    if spec.id = "" then maps.namesByID else update maps.namesByID spec.id (some spec.name)

def find (nameOrID : String) : Except Err Spec :=
  match maps.lookup nameOrID with
  | some spec => pure spec
  | none => throw (.notFound ("no instance " ++ quoted nameOrID))

def checkFree (name : String) : Except Err Unit :=
  if (maps.lookup name).isSome then throw
    (.alreadyExists ("instance " ++ quoted name ++ " already exists"))
  else pure ()

end Maps

/-- Read every definition that is where its name says. -/
def loadFrom (yaml : Yaml Data) (tree : Tree Data) (names : List String) (maps : Maps) : Maps :=
  names.foldl (fun maps name =>
      match tree.placed yaml name with
      | some spec => maps.putInstance spec
      | none => maps) maps

def loadInstances (yaml : Yaml Data) (tree : Tree Data) : Maps :=
  loadFrom yaml tree ((tree.keys.filter fun name => !isStaging name).insertionSort
    fun first second => first ≤ second) .empty

/-! ## The calls -/

structure Filed (Data : Type) extends Maps where
  tree : Tree Data
  references : Store

namespace Filed

def fresh (references : Store) : Filed Data := ⟨.empty, ∅, references⟩

variable (filed : Filed Data)

def checkCreate (spec : Spec) : Except Err Unit := do
  Naming.validate spec.name
  filed.checkFree spec.name
  filed.references.checkReferences spec

variable (yaml : Yaml Data) (faults : Faults Data)

def createInstance (spec : Spec) : Except Err Unit × Filed Data :=
  match filed.checkCreate spec with
  | .error error => (.error error, filed)
  | .ok _ =>
    if faults.mkdir then (.error (.host ("create " ++ instanceDir spec.name)), filed)
    else
      let made := filed.tree.mkdirAll spec.name
      match made.writeDefinition yaml faults spec with
      | .error error => (.error error, { filed with tree := made })
      | .ok tree => (.ok (), { filed with toMaps := filed.putInstance spec, tree := tree })

def checkUpdate (spec : Spec) : Except Err Unit := do
  let _ ← filed.find spec.name
  filed.references.checkReferences spec

def updateInstance (spec : Spec) : Except Err Unit × Filed Data :=
  match filed.checkUpdate spec with
  | .error error => (.error error, filed)
  | .ok _ =>
    match filed.tree.writeDefinition yaml faults spec with
    | .error error => (.error error, filed)
    | .ok tree => (.ok (), { filed with toMaps := filed.putInstance spec, tree := tree })

variable (nameOrID : String)

/-- The instance to be renamed, which is none if it has the name already. -/
def checkRename (renamed : Spec) : Except Err (Option Spec) := do
  let current ← filed.find nameOrID
  filed.references.checkReferences renamed
  Naming.validate renamed.name
  if renamed.name = current.name then return none
  else
    filed.checkFree renamed.name
    return some current

/-- The directory moves first, then its definition is written, then the maps change. -/
def renameInstance (renamed : Spec) : Except Err Unit × Filed Data :=
  match filed.checkRename nameOrID renamed with
  | .error error => (.error error, filed)
  | .ok none => (.ok (), filed)
  | .ok (some current) =>
    match filed.tree.rename faults current.name renamed.name with
    | .error error => (.error error, filed)
    | .ok moved =>
      match moved.writeDefinition yaml faults renamed with
      | .error error => (.error error, { filed with tree := moved })
      | .ok tree =>
        let without : Maps := { filed.toMaps with instances := update filed.instances current.name none }
        (.ok (), { filed with toMaps := without.putInstance renamed, tree := tree })

def without (spec : Spec) : Filed Data where
  instances := update filed.instances spec.name none
  namesByID := update filed.namesByID spec.id none
  tree := filed.tree.erase spec.name
  references := filed.references

def deleteInstance : Except Err Unit × Filed Data :=
  match filed.find nameOrID with
  | .error error => (.error error, filed)
  | .ok spec =>
    match faults.removeAll with
    | some left =>
      (.error (.host ("remove " ++ instanceDir spec.name)),
        { filed with tree := filed.tree.insert spec.name left })
    | none => (.ok (), filed.without spec)

inductive Call
  | createInstance (spec : Spec)
  | updateInstance (spec : Spec)
  | renameInstance (nameOrID : String) (renamed : Spec)
  | deleteInstance (nameOrID : String)

def perform : Call → Except Err Unit × Filed Data
  | .createInstance spec => filed.createInstance yaml faults spec
  | .updateInstance spec => filed.updateInstance yaml faults spec
  | .renameInstance nameOrID renamed => filed.renameInstance yaml faults nameOrID renamed
  | .deleteInstance nameOrID => filed.deleteInstance faults nameOrID

/-- What calls that return no error lead to, each meeting a condition on what it is made on. -/
inductive Reached (references : Store) (meets : Filed Data → Call → Prop) : Filed Data → Prop
  | fresh : Reached references meets (.fresh references)
  | call {filed after : Filed Data} (faults : Faults Data) (call : Call) :
      Reached references meets filed → meets filed call →
      filed.perform yaml faults call = (.ok (), after) → Reached references meets after

end Filed
end Dicer.FileStore
