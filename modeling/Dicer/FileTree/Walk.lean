import Mathlib.Logic.Function.Basic

namespace Dicer.FileTree

/-!
# Following paths

A file tree is looked at through the shape of what is at each real path: a directory, a file, a
symbolic link or nothing.  A path given to the system is a list of names to follow, through links,
and leads to a real path or fails.  Following is done in passes, one for each link taken, so a limit
on the links taken is what makes it end.

`walk` follows paths as a root opened on a directory does: neither a name nor a link leads out of
the directory.  `resolve` follows them as the system does from a working directory.
-/

/-- The names from the top of the file system down. -/
abbrev Path := List String

inductive Shape
  | dir
  | file
  | link (target : String)
  deriving DecidableEq, Repr

/-- Why a path leads nowhere. -/
inductive Lost
  | missing
  | notDirectory
  | escapes
  | loops
  deriving DecidableEq, Repr

abbrev Look := Path → Option Shape

def components (text : String) : List String :=
  (text.toList.splitOn '/').map String.ofList

def isAbsolute (text : String) : Bool :=
  text.toList.head? == some '/'

section Walk

variable (look : Look) (base : Path) (follow : Bool)

/-- Follow names up to the next link to take, which `jump` takes.  `done` are the directories below
the base that were entered; `follow` says whether a link at the very end is taken too. -/
def pass (jump : Path → List String → Except Lost Path) : Path → List String → Except Lost Path
  | done, [] => .ok (base ++ done)
  | done, name :: rest =>
    if name = "" ∨ name = "." then pass jump done rest
    else if name = ".." then
      if done = [] then .error .escapes else pass jump done.dropLast rest
    else
      match look (base ++ done ++ [name]) with
      | some (.link target) =>
        if rest = [] ∧ follow = false then .ok (base ++ done ++ [name])
        else if isAbsolute target then .error .escapes
        else jump done (components target ++ rest)
      | some .dir => pass jump (done ++ [name]) rest
      | some .file => if rest = [] then .ok (base ++ done ++ [name]) else .error .notDirectory
      | none => if rest = [] then .ok (base ++ done ++ [name]) else .error .missing

/-- Follow names in the root opened on the base, taking at most so many links. -/
def walk : Nat → Path → List String → Except Lost Path
  | 0 => pass look base follow fun _ _ => .error .loops
  | links + 1 => pass look base follow (walk links)

end Walk

def resolvePass (look : Look) (jump : Path → List String → Except Lost Path) :
    Path → List String → Except Lost Path
  | done, [] => .ok done
  | done, name :: rest =>
    if name = "" ∨ name = "." then resolvePass look jump done rest
    else if name = ".." then resolvePass look jump done.dropLast rest
    else
      match look (done ++ [name]) with
      | some (.link target) =>
        jump (if isAbsolute target then [] else done) (components target ++ rest)
      | some .dir => resolvePass look jump (done ++ [name]) rest
      | some .file => if rest = [] then .ok (done ++ [name]) else .error .notDirectory
      | none => if rest = [] then .ok (done ++ [name]) else .error .missing

def resolve (look : Look) : Nat → Path → List String → Except Lost Path
  | 0 => resolvePass look fun _ _ => .error .loops
  | links + 1 => resolvePass look (resolve look links)

section Change

variable {look changed : Look} {base place : Path} {follow : Bool}

/-- A change at the place a path leads to, which leaves nothing or a file there, does not make the
path lead to another place: what goes on through the place fails there, and the rest of the way is
as it was. -/
theorem pass_changed {jump jumpChanged : Path → List String → Except Lost Path}
    (elsewhere : ∀ path, path ≠ place → changed path = look path)
    (ends : changed place = none ∨ changed place = some .file)
    (jumps : ∀ done todo after, jump done todo = .ok place → jumpChanged done todo = .ok after →
      after = place)
    (done : Path) (todo : List String) (after : Path)
    (led : pass look base false jump done todo = .ok place)
    (ledChanged : pass changed base follow jumpChanged done todo = .ok after) : after = place := by
  induction todo generalizing done with
  | nil =>
    rw [pass] at led ledChanged
    rw [← Except.ok.inj led, ← Except.ok.inj ledChanged]
  | cons name rest ih =>
    rw [pass] at led ledChanged
    by_cases skipped : name = "" ∨ name = "."
    · rw [if_pos skipped] at led ledChanged
      exact ih done led ledChanged
    rw [if_neg skipped] at led ledChanged
    by_cases up : name = ".."
    · rw [if_pos up] at led ledChanged
      by_cases atTop : done = []
      · simp [atTop] at led
      · rw [if_neg atTop] at led ledChanged
        exact ih done.dropLast led ledChanged
    rw [if_neg up] at led ledChanged
    by_cases here : base ++ done ++ [name] = place
    · rw [here] at ledChanged
      rcases ends with gone | file
      · rw [gone] at ledChanged
        by_cases last : rest = [] <;> simp_all
      · rw [file] at ledChanged
        by_cases last : rest = [] <;> simp_all
    · rw [elsewhere _ here] at ledChanged
      cases lookedAt : look (base ++ done ++ [name]) with
      | none => by_cases last : rest = [] <;> simp_all
      | some shape =>
        rw [lookedAt] at led ledChanged
        cases shape with
        | dir => exact ih (done ++ [name]) led ledChanged
        | file => by_cases last : rest = [] <;> simp_all
        | link target =>
          by_cases last : rest = []
          · simp_all
          simp only [last, false_and, if_false] at led ledChanged
          by_cases absolute : isAbsolute target
          · simp [absolute] at led
          · rw [if_neg absolute] at led ledChanged
            exact jumps done _ after led ledChanged

theorem walk_changed (elsewhere : ∀ path, path ≠ place → changed path = look path)
    (ends : changed place = none ∨ changed place = some .file) (links : Nat) :
    ∀ (done : Path) (todo : List String) (after : Path), walk look base false links done todo =
      .ok place → walk changed base follow links done todo = .ok after → after = place := by
  induction links with
  | zero =>
    intro done todo after led ledChanged
    apply pass_changed elsewhere ends _ done todo after led ledChanged
    intro _ _ _ jumped
    simp at jumped
  | succ links ih =>
    intro done todo after led ledChanged
    exact pass_changed elsewhere ends ih done todo after led ledChanged

end Change

end Dicer.FileTree
