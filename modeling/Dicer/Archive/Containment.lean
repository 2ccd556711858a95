import Dicer.Archive.Unpack

namespace Dicer.Archive

open FileTree Function

/-!
# Where an archive's entries land

The text of every entry's path stays beneath the top-level entry, but the path is followed through
the links that are there when the entry comes up, and those of the archive are among them.  So an
entry lands beneath the top-level entry exactly when its path leads there at that time, and the
whole archive does exactly when each visit that changes anything does.
-/

/-- Where a path leads in a root. -/
abbrev Root.leads (root : Root) (look : Look) (follow : Bool) (rel : List String) :
    Except Lost Path :=
  walk look root.base follow root.host.links [] rel

/-- Where a visit's path leads, through the links that are there when it comes up. -/
def Visit.leads (root : Root) (visit : Visit) : Except Lost Path :=
  root.leads visit.tree.look (visit.task = .finish) visit.rel

/-- How many operations a visit makes up to its first change. -/
def Task.operations : Task → Nat
  | .enter _ => 2
  | .finish => 1

/-- Whether the host allows a visit's operations up to its first change. -/
def Visit.allowed (root : Root) (visit : Visit) : Bool :=
  (List.range visit.task.operations).all fun later =>
    (root.host.refuses (visit.clock + later)).isNone

/-- Whether a visit changes what it finds at the end of its path. -/
def Task.changes (task : Task) (there : Option Shape) : Bool :=
  match task with
  | .enter .dir => there.isNone
  | .enter (.regular _ _) => there != some .dir
  | .enter (.symlink target) => if there.isNone then target != "" else there != some .dir
  | .enter .other => false
  | .finish => there.isSome

/-- A visit that is going to change the real path its path leads to. -/
def Visit.Changes (root : Root) (visit : Visit) (path : Path) : Prop :=
  visit.leads root = .ok path ∧ visit.task.changes (visit.tree.look path) = true ∧
    visit.allowed root = true

/-- The visit made of a disk as it stands. -/
def Disk.visit (disk : Disk) (task : Task) (rel : List String) : Visit :=
  ⟨disk.tree, disk.clock, task, rel⟩

def Disk.visited (disk : Disk) (task : Task) (rel : List String) : Disk :=
  { disk with visits := disk.visit task rel :: disk.visits }

/-! ## Running the operations -/

section Running

variable {Value Next : Type}

@[simp]
theorem bind_run (run : Run Value) (next : Value → Run Next) (disk : Disk) :
    (run >>= next) disk = match run disk with
      | (.ok value, after) => next value after
      | (.error fault, after) => (.error fault, after) := by
  change (ExceptT.bindCont next (run disk).1) (run disk).2 = _
  rcases run disk with ⟨result, after⟩
  cases result <;> rfl

@[simp]
theorem map_run (run : Run Value) (next : Value → Next) (disk : Disk) :
    (next <$> run) disk = match run disk with
      | (.ok value, after) => (.ok (next value), after)
      | (.error fault, after) => (.error fault, after) := by
  rw [map_eq_pure_bind, bind_run]
  rcases run disk with ⟨result, after⟩
  cases result <;> rfl

theorem state_bind_run (run : StateM Disk Value) (next : Value → StateM Disk Next) (disk : Disk) :
    (run >>= next) disk = next (run disk).1 (run disk).2 :=
  rfl

@[simp]
theorem pure_run (value : Value) (disk : Disk) :
    (pure value : Run Value) disk = (.ok value, disk) := rfl

@[simp]
theorem throw_run (fault : Fault) (disk : Disk) :
    (throw fault : Run Value) disk = (.error fault, disk) := rfl

@[simp]
theorem get_run (disk : Disk) : (get : Run Disk) disk = (.ok disk, disk) := rfl

@[simp]
theorem set_run (after disk : Disk) : (set after : Run PUnit) disk = (.ok (), after) := rfl

@[simp]
theorem place_run (node : Option Node) (path : Path) (disk : Disk) : place node path disk =
      (.ok (), { disk with tree := update disk.tree path node, touched := path :: disk.touched }) :=
  rfl

@[simp]
theorem visit_run (task : Task) (rel : List String) (disk : Disk) :
    visit task rel disk = (.ok (), disk.visited task rel) :=
  rfl

@[simp]
theorem attempt_run (run : Run Value) (disk : Disk) :
    attempt run disk = (.ok (run disk).1, (run disk).2) :=
  rfl

end Running

/-- Nothing but one real path was touched between two disks, and no visit was made. -/
structure Adds (path : Path) (before after : Disk) : Prop where
  visits : after.visits = before.visits
  only : ∀ other ∈ after.touched, other = path ∨ other ∈ before.touched
  keeps : ∀ other ∈ before.touched, other ∈ after.touched

theorem Adds.of_eq {path : Path} {before after : Disk} (visits : after.visits = before.visits)
    (touched : after.touched = before.touched) : Adds path before after :=
  ⟨visits, fun _ member => .inr (touched ▸ member), fun _ member => touched ▸ member⟩

theorem Adds.trans {path : Path} {first second third : Disk} (before : Adds path first second)
    (after : Adds path second third) : Adds path first third where
  visits := after.visits.trans before.visits
  only := fun other member => (after.only other member).elim .inl (before.only other)
  keeps := fun other member => after.keeps other (before.keeps other member)

theorem Adds.placed (path : Path) (disk : Disk) (node : Option Node) :
    Adds path disk (place node path disk).2 where
  visits := rfl
  only := fun _ member => List.mem_cons.mp member
  keeps := fun _ member => List.mem_cons_of_mem path member

/-- A disk that shows a given tree everywhere but at one path, where it has nothing or a file. -/
structure Settled (look : Look) (path : Path) (disk : Disk) : Prop where
  elsewhere : ∀ other, other ≠ path → disk.tree.look other = look other
  ends : disk.tree.look path = none ∨ disk.tree.look path = some .file

theorem look_placed {disk : Disk} {path other : Path} (node : Option Node)
    (different : other ≠ path) : (place node path disk).2.tree.look other = disk.tree.look
    other := by
  simp [Tree.look, update_of_ne different]

/-- A run that goes on changing one path only, from a settled disk. -/
def Keeps {Value : Type} (look : Look) (path : Path) (run : Run Value) (good : Value → Prop) :
    Prop :=
  ∀ disk, Settled look path disk → Adds path disk (run disk).2 ∧ Settled look path (run disk).2 ∧
      ∀ value, (run disk).1 = .ok value → good value

section Settling

variable {look : Look} {path : Path} {Value Next : Type}

theorem Keeps.bind {run : Run Value} {next : Value → Run Next} {good : Value → Prop}
    {fine : Next → Prop} (first : Keeps look path run good)
    (second : ∀ value, good value → Keeps look path (next value) fine) :
    Keeps look path (run >>= next) fine := by
  intro disk settled
  rw [bind_run]
  rcases first disk settled with ⟨adds, settledAfter, isGood⟩
  rcases ran : run disk with ⟨result, after⟩
  rw [ran] at adds settledAfter isGood
  cases result with
  | error => exact ⟨adds, settledAfter, nofun⟩
  | ok value =>
    rcases second value (isGood value rfl) after settledAfter with ⟨addsMore, settledLater, isFine⟩
    exact ⟨adds.trans addsMore, settledLater, isFine⟩

theorem Keeps.same {run : Run Value} {good : Value → Prop} {result : Except Fault Value}
    (same : ∀ disk, run disk = (result, disk)) (isGood : ∀ value, result = .ok value → good value) :
    Keeps look path run good := by
  intro disk settled
  rw [same]
  exact ⟨.of_eq rfl rfl, settled, isGood⟩

/-- Putting nothing or a file at the path keeps a disk settled. -/
theorem Keeps.place (node : Option Node)
    (ends : node.map Node.shape = none ∨ node.map Node.shape = some .file) :
    Keeps look path (Archive.place node path) fun _ => True := by
  intro disk settled
  refine ⟨Adds.placed path disk node, ⟨?_, ?_⟩, fun _ _ => True.intro⟩
  · intro other different
    rw [← settled.elsewhere other different, look_placed node different]
  · simpa [Tree.look] using ends

theorem operate_keeps (host : Host) : Keeps look path (operate host) fun _ => True := by
  intro disk settled
  have ran : (operate host disk).2 = { disk with clock := disk.clock + 1 } := by
    cases refused : host.refuses disk.clock <;> simp [operate, refused]
  rw [ran]
  exact ⟨.of_eq rfl rfl, ⟨settled.elsewhere, settled.ends⟩, fun _ _ => True.intro⟩

variable {root : Root} {rel : List String}

/-- On a settled disk, a path that led to the one that changed leads to no other. -/
theorem locate_keeps (led : root.leads look false rel = .ok path) (follow : Bool) :
    Keeps look path (root.locate follow rel) fun found => found = path := by
  apply (operate_keeps root.host).bind
  intro _ _ disk settled
  simp only [bind_run, get_run]
  cases walked : walk disk.tree.look root.base follow root.host.links [] rel with
  | error => exact ⟨.of_eq rfl rfl, settled, nofun⟩
  | ok found =>
    refine ⟨.of_eq rfl rfl, settled, ?_⟩
    intro value isFound
    rw [← Except.ok.inj isFound]
    exact walk_changed settled.elsewhere settled.ends root.host.links [] rel found led walked

theorem rewrite_keeps {change : Node → Node} (shape : ∀ node, (change node).shape = node.shape) :
    Keeps look path (do
      match (← get).tree path with
      | none => throw missing
      | some node => Archive.place (some (change node)) path) fun _ => True := by
  intro disk settled
  rw [bind_run, get_run]
  dsimp only
  cases there : disk.tree path with
  | none => exact ⟨.of_eq rfl rfl, settled, fun _ _ => True.intro⟩
  | some node =>
    have ends := settled.ends
    rw [Tree.look, there, Option.map_some, ← shape] at ends
    exact Keeps.place (some (change node)) ends disk settled

theorem amend_keeps (led : root.leads look false rel = .ok path) {change : Node → Node}
    (shape : ∀ node, (change node).shape = node.shape) :
    Keeps look path (root.amend change rel) fun _ => True := by
  apply (locate_keeps led true).bind
  intro found isPath
  rw [isPath]
  exact rewrite_keeps shape

/-- What is left to do once the file of an entry is open. -/
def fillFile (root : Root) (header : Header) (rel : List String) (content : String)
    (complete : Bool) (file : Path) : Run Bool := do
  write root.host file content
  if !complete then throw ⟨false, "unexpected EOF"⟩
  root.chmod rel header.mode
  root.chtimes rel header.modTime
  pure true

theorem fillFile_keeps (led : root.leads look false rel = .ok path) (header : Header)
    (content : String) (complete : Bool) :
    Keeps look path (fillFile root header rel content complete path) fun _ => True := by
  have writes : Keeps look path (write root.host path content) fun _ => True :=
    (operate_keeps root.host).bind fun _ _ => rewrite_keeps fun _ => rfl
  have modes : Keeps look path (root.chmod rel header.mode) fun _ => True :=
    amend_keeps led fun _ => rfl
  have times : Keeps look path (root.chtimes rel header.modTime) fun _ => True :=
    amend_keeps led fun _ => rfl
  apply writes.bind
  intro _ _
  cases complete with
  | false => exact Keeps.same (fun _ => rfl) (fun _ _ => True.intro)
  | true => exact modes.bind fun _ _ => times.bind fun _ _ => Keeps.same (fun _ => rfl) fun _ _ => True.intro

end Settling

/-! ## One visit -/

attribute [simp] operate Root.locate Root.lstat Root.mkdir Root.create Root.remove Disk.visited

/-- What a visit touched is what it was going to change. -/
structure Accounts (root : Root) (visit : Visit) (before after : Disk) : Prop where
  visits : after.visits = visit :: before.visits
  touched : ∀ path, path ∈ after.touched ↔ visit.Changes root path ∨ path ∈ before.touched

section Visits

variable {root : Root} {rel : List String} {disk before after : Disk} {kind : Kind} {path : Path}
    {Value : Type}

theorem Accounts.unchanged {visit : Visit} (visits : after.visits = visit :: before.visits)
    (same : after.touched = before.touched) (changesNothing : ∀ path, ¬visit.Changes root path) :
    Accounts root visit before after where
  visits := visits
  touched := by
    intro path
    rw [same]
    exact ⟨.inr, fun member => member.resolve_left (changesNothing path)⟩

/-- After the first change, to the path the visit was going to change, only that path was
touched. -/
theorem Accounts.changed {visit : Visit} {middle : Disk} (changes : visit.Changes root path)
    (visits : middle.visits = visit :: before.visits)
    (touched : middle.touched = path :: before.touched)
    (adds : Adds path middle after) : Accounts root visit before after where
  visits := adds.visits.trans visits
  touched := by
    have isChanged : ∀ other, visit.Changes root other ↔ other = path := fun other =>
      ⟨fun changesOther => Except.ok.inj (changesOther.1.symm.trans changes.1), fun here =>
        here ▸ changes⟩
    have only := adds.only
    have keeps := adds.keeps
    simp only [touched, List.mem_cons] at only keeps
    intro other
    rw [isChanged]
    exact ⟨fun member => (only other member).elim .inl id, keeps other⟩

theorem enter_changes : (disk.visit (.enter kind) rel).Changes root path ↔
      root.leads disk.tree.look false rel = .ok path ∧
        (Task.enter kind).changes ((disk.tree path).map Node.shape) = true ∧
          root.host.refuses disk.clock = none ∧ root.host.refuses (disk.clock + 1) = none := by
  simp [Visit.Changes, Visit.leads, Visit.allowed, Task.operations, Disk.visit, Tree.look,
    List.range_succ]

theorem makeDir_accounts (root : Root) (disk : Disk) (rel : List String) :
    Accounts root (disk.visit (.enter .dir) rel) disk
      (makeDir root rel (disk.visited (.enter .dir) rel)).2 := by
  cases first : root.host.refuses disk.clock with
  | some => apply Accounts.unchanged <;> simp [makeDir, first, enter_changes]
  | none =>
    cases walked : root.leads disk.tree.look false rel with
    | error lost =>
      cases second : root.host.refuses (disk.clock + 1) <;> cases lost <;>
        apply Accounts.unchanged <;>
        simp [makeDir, first, second, walked, enter_changes, ofLost, missing]
    | ok path =>
      cases there : disk.tree path with
      | some node =>
        by_cases isDir : node.shape = .dir <;> apply Accounts.unchanged <;>
          simp [makeDir, first, walked, there, isDir, enter_changes, Task.changes]
      | none =>
        cases second : root.host.refuses (disk.clock + 1) with
        | some => apply Accounts.unchanged <;> simp [makeDir, first, second, walked, there, enter_changes, missing]
        | none =>
          have changes : (disk.visit (.enter .dir) rel).Changes root path :=
            enter_changes.mpr ⟨walked, by simp [there, Task.changes], first, second⟩
          apply Accounts.changed changes _ _ (.of_eq rfl rfl) <;>
            simp [makeDir, first, second, walked, there, missing]

/-- The disk of a visit after one operation. -/
def Disk.looked (disk : Disk) (task : Task) (rel : List String) : Disk :=
  { disk.visited task rel with clock := disk.clock + 1 }

/-- The disk of a visit whose second operation was its first change. -/
def Disk.changed (disk : Disk) (task : Task) (rel : List String) (path : Path)
    (node : Option Node) : Disk :=
  { disk.visited task rel with
    tree := update disk.tree path node
    clock := disk.clock + 1 + 1
    touched := path :: disk.touched }

/-- An entry that first clears its place: either nothing was there, and the change is up to what
follows, or what was there is gone, and what follows changes nothing else. -/
theorem removeUnlessDir_accounts (clears : ∀ shape, (Task.enter kind).changes (some shape) =
    (shape != .dir)) (next : Run Value)
    (empty : root.host.refuses disk.clock = none →
      (∀ path, root.leads disk.tree.look false rel = .ok path → disk.tree path = none) →
      Accounts root (disk.visit (.enter kind) rel) disk (next (disk.looked (.enter kind) rel)).2)
    (cleared : ∀ path, root.leads disk.tree.look false rel = .ok path →
      ∀ after, Settled disk.tree.look path after → Adds path after (next after).2) :
    Accounts root (disk.visit (.enter kind) rel) disk
      ((do removeUnlessDir root rel; next) (disk.visited (.enter kind) rel)).2 := by
  have clear (first : root.host.refuses disk.clock = none) (fault : Fault)
      (notExist : fault.notExist = true) (looked : root.lstat rel (disk.visited (.enter kind) rel) =
      (.error fault, disk.looked (.enter kind) rel))
      (nothing : ∀ path, root.leads disk.tree.look false rel = .ok path → disk.tree path = none) :
      Accounts root (disk.visit (.enter kind) rel) disk
        ((do removeUnlessDir root rel; next) (disk.visited (.enter kind) rel)).2 := by
    have ran : removeUnlessDir root rel (disk.visited (.enter kind) rel) =
        (.ok (), disk.looked (.enter kind) rel) := by
      rw [removeUnlessDir, bind_run, attempt_run, looked]
      simp [notExist]
    rw [bind_run, ran]
    exact empty first nothing
  cases first : root.host.refuses disk.clock with
  | some => apply Accounts.unchanged <;> simp [removeUnlessDir, first, enter_changes]
  | none =>
    cases walked : root.leads disk.tree.look false rel with
    | error reason =>
      by_cases isMissing : reason = .missing
      · refine clear first missing rfl ?_ (by simp [walked])
        simp [Disk.looked, first, walked, isMissing, ofLost]
      · cases reason <;> first | exact absurd rfl isMissing | apply Accounts.unchanged <;>
          simp [removeUnlessDir, first, walked, enter_changes, ofLost]
    | ok path =>
      cases there : disk.tree path with
      | none =>
        refine clear first missing rfl ?_ (by simp [walked, there])
        simp [Disk.looked, first, walked, there]
      | some node =>
        by_cases isDir : node.shape = .dir
        · apply Accounts.unchanged <;> simp [removeUnlessDir, first, walked, there, isDir,
            enter_changes, clears]
        cases second : root.host.refuses (disk.clock + 1) with
        | some =>
          apply Accounts.unchanged <;> simp [removeUnlessDir, first, second, walked, there, isDir,
            enter_changes]
        | none =>
          have changes : (disk.visit (.enter kind) rel).Changes root path :=
            enter_changes.mpr ⟨walked, by simp [there, clears, isDir], first, second⟩
          have ran : removeUnlessDir root rel (disk.visited (.enter kind) rel) =
              (.ok (), disk.changed (.enter kind) rel path none) := by
            simp [removeUnlessDir, Disk.changed, first, second, walked, there, isDir]
          rw [bind_run, ran]
          refine Accounts.changed changes rfl rfl
            (cleared path walked _ ⟨fun other different => ?_, .inl ?_⟩)
          · exact look_placed none different
          · simp [Disk.changed, Tree.look]

/-- A disk with something new at a path of a tree. -/
def Created (look : Look) (path : Path) (shape : Shape) (disk : Disk) : Prop :=
  (∀ other, other ≠ path → disk.tree.look other = look other) ∧ disk.tree.look path = some shape

/-- An entry that clears its place and creates something there, after which it changes nothing
else. -/
theorem create_accounts {node : Node} {next : Path → Run Value}
    (clears : ∀ shape, (Task.enter kind).changes (some shape) = (shape != .dir))
    (creates : (Task.enter kind).changes none = true)
    (adds : ∀ path, root.leads disk.tree.look false rel = .ok path →
      ∀ after, Created disk.tree.look path node.shape after → Adds path after (next path after).2) :
    Accounts root (disk.visit (.enter kind) rel) disk
      ((do removeUnlessDir root rel; root.create node rel >>= next)
      (disk.visited (.enter kind) rel)).2 := by
  apply removeUnlessDir_accounts clears
  · intro first clear
    cases second : root.host.refuses (disk.clock + 1) with
    | some => apply Accounts.unchanged <;> simp [Disk.looked, second, enter_changes]
    | none =>
      cases walked : root.leads disk.tree.look false rel with
      | error => apply Accounts.unchanged <;> simp [Disk.looked, second, walked, enter_changes]
      | ok path =>
        have there := clear path walked
        have changes : (disk.visit (.enter kind) rel).Changes root path :=
          enter_changes.mpr ⟨walked, by simp [there, creates], first, second⟩
        have created : root.create node rel (disk.looked (.enter kind) rel) =
            (.ok path, disk.changed (.enter kind) rel path (some node)) := by
          simp [Disk.looked, Disk.changed, second, walked, there]
        rw [bind_run, created]
        refine Accounts.changed changes rfl rfl (adds path walked _ ⟨fun other different => ?_, ?_⟩)
        · exact look_placed (some node) different
        · simp [Disk.changed, Tree.look]
  · intro path walked after settled
    rcases locate_keeps walked false after settled with ⟨located, settledLater, isPath⟩
    rcases ran : root.locate false rel after with ⟨result, later⟩
    rw [ran] at located settledLater isPath
    rw [Root.create, bind_run, bind_run, ran]
    cases result with
    | error => exact located
    | ok found =>
      obtain rfl : found = path := isPath found rfl
      dsimp only
      rw [bind_run, get_run]
      dsimp only
      cases there : later.tree found with
      | some => exact located
      | none =>
        refine (located.trans (Adds.placed found later (some node))).trans
          (adds found walked _ ⟨?_, ?_⟩)
        · intro other different
          rw [look_placed _ different, settledLater.elsewhere other different]
        · simp [Tree.look]

theorem unpackEntry_accounts (root : Root) (disk : Disk) (header : Header) (rel : List String) :
    Accounts root (disk.visit (.enter header.kind) rel) disk
    (unpackEntry root header rel disk).2 := by
  cases kind : header.kind with
  | dir => simpa [unpackEntry, kind] using makeDir_accounts root disk rel
  | regular content complete =>
    have ran : Accounts root (disk.visit (.enter (.regular content complete)) rel) disk
        ((do
          removeUnlessDir root rel
          root.openFile rel header.mode >>= fillFile root header rel content complete)
            (disk.visited (.enter (.regular content complete)) rel)).2 := by
      apply create_accounts (by intro shape; cases shape <;> rfl) rfl
      intro path walked after created
      exact (fillFile_keeps walked header content complete after ⟨created.1, .inr created.2⟩).1
    simp only [unpackEntry, kind]
    exact ran
  | symlink target =>
    simp only [unpackEntry, kind]
    by_cases noTarget : target = ""
    · have ran : Accounts root (disk.visit (.enter (.symlink target)) rel) disk
          ((do removeUnlessDir root rel; (throw missing : Run Bool))
              (disk.visited (.enter (.symlink target)) rel)).2 := by
        apply removeUnlessDir_accounts (by intro shape; cases shape <;> rfl)
        · intro first clear
          refine Accounts.unchanged (by rfl) (by rfl) fun path changes => ?_
          rcases enter_changes.mp changes with ⟨walked, change, _⟩
          simp [clear path walked, Task.changes, noTarget] at change
        · exact fun _ _ _ _ => .of_eq rfl rfl
      simpa [Root.symlink, noTarget] using ran
    · have ran : Accounts root (disk.visit (.enter (.symlink target)) rel) disk
          ((do
            removeUnlessDir root rel
            root.create ⟨.link target, 0, 0, ""⟩ rel >>= fun _ => (pure true : Run Bool))
              (disk.visited (.enter (.symlink target)) rel)).2 :=
        create_accounts (by intro shape; cases shape <;> rfl) (by simp [Task.changes, noTarget])
          fun _ _ _ _ => .of_eq rfl rfl
      simpa [Root.symlink, noTarget] using ran
  | other => apply Accounts.unchanged <;> simp [unpackEntry, kind, enter_changes, Task.changes]

theorem finish_changes : (disk.visit .finish rel).Changes root path ↔
        root.leads disk.tree.look true rel = .ok path ∧ (disk.tree path).isSome = true ∧
        root.host.refuses disk.clock = none := by
  simp [Visit.Changes, Visit.leads, Visit.allowed, Task.operations, Task.changes, Disk.visit,
    Tree.look]

theorem look_update {tree : Tree} {node other : Node} (there : tree path = some node)
    (shape : other.shape = node.shape) : Tree.look (update tree path (some other)) = tree.look := by
  funext place
  by_cases here : place = path
  · simp [Tree.look, here, there, shape]
  · simp [Tree.look, update_of_ne here]

/-- Changing attributes of what a path leads to leaves every path leading where it led. -/
theorem amend_adds (walked : root.leads disk.tree.look true rel = .ok path) (change : Node → Node) :
    Adds path disk (root.amend change rel disk).2 := by
  have ticked : Adds path disk { disk with clock := disk.clock + 1 } := .of_eq rfl rfl
  cases refused : root.host.refuses disk.clock with
  | some => simpa [Root.amend, refused] using ticked
  | none =>
    cases there : disk.tree path with
    | none => simpa [Root.amend, refused, walked, there] using ticked
    | some node =>
      simpa [Root.amend, refused, walked, there] using ticked.trans (Adds.placed path _ (some (change node)))

theorem finishDir_accounts (root : Root) (disk : Disk) (header : Header) (rel : List String) :
    Accounts root (disk.visit .finish rel) disk (finishDir root header rel disk).2 := by
  cases first : root.host.refuses disk.clock with
  | some => apply Accounts.unchanged <;> simp [finishDir, Root.chmod, Root.amend, first, finish_changes]
  | none =>
    cases walked : root.leads disk.tree.look true rel with
    | error =>
      apply Accounts.unchanged <;> simp [finishDir, Root.chmod, Root.amend, first, walked,
        finish_changes]
    | ok path =>
      cases there : disk.tree path with
      | none =>
        apply Accounts.unchanged <;> simp [finishDir, Root.chmod, Root.amend, first, walked, there,
          finish_changes]
      | some node =>
        have changes : (disk.visit .finish rel).Changes root path :=
          finish_changes.mpr ⟨walked, by simp [there], first⟩
        let middle : Disk :=
          { disk.visited .finish rel with
            tree := update disk.tree path (some { node with mode := header.mode })
            clock := disk.clock + 1
            touched := path :: disk.touched }
        have moded : root.chmod rel header.mode (disk.visited .finish rel) = (.ok (), middle) := by
          simp [Root.chmod, Root.amend, first, walked, there, middle]
        have looks : middle.tree.look = disk.tree.look := look_update there rfl
        have timed : Adds path middle (root.chtimes rel header.modTime middle).2 :=
          amend_adds (looks.symm ▸ walked) _
        rw [finishDir, bind_run, visit_run]
        dsimp only
        rw [bind_run, moded]
        exact Accounts.changed changes rfl rfl timed

end Visits

/-! ## Whole archives -/

/-- Everything touched was changed by a visit, and every visit that was going to change a path
touched it. -/
def Recorded (root : Root) (disk : Disk) : Prop :=
  ∀ path, path ∈ disk.touched ↔ ∃ visit ∈ disk.visits, visit.Changes root path

section Whole

variable {root : Root}

theorem Accounts.recorded {visit : Visit} {before after : Disk}
    (accounts : Accounts root visit before after) (recorded : Recorded root before) :
    Recorded root after := by
  intro path
  rw [accounts.touched path, accounts.visits, recorded path]
  simp

theorem unpackEntries_recorded (top name : String) (broken : Option String) (headers : List Header)
    (dirs : List (Header × List String)) (disk : Disk) (recorded : Recorded root disk) :
    Recorded root (unpackEntries root top name broken headers dirs disk).2 := by
  induction headers generalizing dirs disk with
  | nil => cases broken <;> exact recorded
  | cons header rest ih =>
    unfold unpackEntries
    generalize entryPath header.name top name = checked
    cases checked with
    | error => exact recorded
    | ok rel =>
      have entered : Recorded root (unpackEntry root header rel disk).2 :=
        (unpackEntry_accounts root disk header rel).recorded recorded
      dsimp only
      rw [state_bind_run]
      cases ((unpackEntry root header rel).run disk).1 with
      | error => exact entered
      | ok =>
        dsimp only
        split
        · exact ih _ _ entered
        · exact ih _ _ entered

theorem finishDirs_recorded (dirs : List (Header × List String)) (result : Except Fault Unit)
    (disk : Disk) (recorded : Recorded root disk) :
    Recorded root (finishDirs root dirs result disk).2 := by
  induction dirs generalizing result disk with
  | nil => exact recorded
  | cons dir rest ih =>
    rcases dir with ⟨header, rel⟩
    have finished : Recorded root (finishDir root header rel disk).2 :=
      (finishDir_accounts root disk header rel).recorded recorded
    rw [finishDirs, state_bind_run]
    cases result with
    | error => exact ih _ _ finished
    | ok => cases ((finishDir root header rel).run disk).1 <;> exact ih _ _ finished

/-- A run that touches nothing and makes no visit. -/
def Quiet {Value : Type} (run : Run Value) : Prop :=
  ∀ disk, (run disk).2.touched = disk.touched ∧ (run disk).2.visits = disk.visits

section

variable {Value Next : Type} {run other : Run Value}

theorem Quiet.bind {next : Value → Run Next} (first : Quiet run)
    (second : ∀ value, Quiet (next value)) : Quiet (run >>= next) := by
  intro disk
  have quiet := first disk
  rw [bind_run]
  rcases ran : run disk with ⟨result, after⟩
  rw [ran] at quiet
  cases result with
  | error => exact quiet
  | ok value =>
    have later := second value after
    exact ⟨later.1.trans quiet.1, later.2.trans quiet.2⟩

theorem Quiet.pure (value : Value) : Quiet (Pure.pure value) := fun _ => ⟨rfl, rfl⟩

theorem Quiet.throw (fault : Fault) : Quiet (MonadExcept.throw fault : Run Value) := fun _ =>
    ⟨rfl, rfl⟩

theorem Quiet.ite {condition : Prop} [Decidable condition] (first : Quiet run)
    (second : Quiet other) : Quiet (if condition then run else other) := by
  split
  · exact first
  · exact second

theorem Quiet.attempt (quiet : Quiet run) : Quiet (Archive.attempt run) :=
  fun disk => quiet disk

end

theorem stat_quiet (host : Host) (path : Clean) : Quiet (stat host path) := by
  apply Quiet.bind
  · intro disk
    cases refused : host.refuses disk.clock <;> simp [refused]
  intro _ disk
  rw [bind_run, get_run]
  dsimp only
  cases resolve disk.tree.look host.links (if path.rooted then [] else host.workingDir) path.names
      with
  | error => exact ⟨rfl, rfl⟩
  | ok real => cases there : disk.tree real <;> simp [there]

theorem placement_quiet (host : Host) (dest : Clean) (isDir : Bool) :
    Quiet (placement host dest isDir) := by
  apply (stat_quiet host dest).attempt.bind
  intro result
  cases result
  case' error => refine .ite ?_ (.throw _)
  case' ok => refine .ite (.pure _) (.ite (.throw _) ?_)
  all_goals
    apply (stat_quiet host dest.parent).attempt.bind
    intro result
    cases result with
    | error => exact .throw _
    | ok => exact .ite (.pure _) (.throw _)

theorem openPlace_quiet (host : Host) (stream : Stream) (dest : String) :
    Quiet (openPlace host stream dest) := by
  unfold openPlace
  split
  · exact .throw _
  · exact .throw _
  refine (placement_quiet host (clean dest) _).bind fun placed => ?_
  have opened : Quiet (openRoot host placed.1) := (stat_quiet host placed.1).bind fun _ =>
    .ite (.pure _) (.throw _)
  exact opened.bind fun _ => .pure _

end Whole

variable (host : Host) (stream : Stream) (dest : String) (tree : Tree)

/-- What is chosen for an archive: the root it is unpacked in, and the real path of its top-level
entry. -/
def chosenFor : Option (Root × Path) :=
  match (openPlace host stream dest (Disk.fresh tree)).1 with
  | .ok (root, top, name) => some (root, chosen root top name)
  | .error _ => none

def unpacked : Disk :=
  (unpack host stream dest (Disk.fresh tree)).2

/-- Everything that unpacking touched is the top-level entry or beneath it. -/
def StaysBeneath : Prop :=
  ∀ path ∈ (unpacked host stream dest tree).touched,
    ∃ root top, chosenFor host stream dest tree = some (root, top) ∧ top <+: path

/-- Whenever an entry, or the finishing of a directory, comes up that is going to change anything,
its path leads to the top-level entry or beneath it through the links that are there then. -/
def LeadsBeneath : Prop :=
  ∀ root top, chosenFor host stream dest tree = some (root, top) →
    ∀ visit ∈ (unpacked host stream dest tree).visits, ∀ path, visit.Changes root path →
    top <+: path

theorem unpacked_recorded {host : Host} {stream : Stream} {dest : String} {tree : Tree}
    {root : Root} {top : Path} (isChosen : chosenFor host stream dest tree = some (root, top)) :
    Recorded root (unpacked host stream dest tree) := by
  have quiet := openPlace_quiet host stream dest (Disk.fresh tree)
  rcases opened : openPlace host stream dest (Disk.fresh tree) with ⟨result, after⟩
  rw [opened] at quiet
  cases result with
  | error => simp [chosenFor, opened] at isChosen
  | ok place =>
    rcases place with ⟨openedRoot, topName, name⟩
    simp only [chosenFor, opened, Option.some.injEq, Prod.mk.injEq] at isChosen
    have nothingYet : Recorded root after := by
      intro path
      rw [quiet.1, quiet.2]
      simp [Disk.fresh]
    rw [unpacked, unpack, bind_run, opened, isChosen.1]
    apply finishDirs_recorded
    exact unpackEntries_recorded topName name stream.broken stream.headers [] after nothingYet

theorem unpacked_untouched {host : Host} {stream : Stream} {dest : String} {tree : Tree}
    (noPlace : chosenFor host stream dest tree = none) :
    (unpacked host stream dest tree).touched = [] := by
  have quiet := openPlace_quiet host stream dest (Disk.fresh tree)
  rcases opened : openPlace host stream dest (Disk.fresh tree) with ⟨result, after⟩
  rw [opened] at quiet
  cases result with
  | ok => simp [chosenFor, opened] at noPlace
  | error =>
    rw [unpacked, unpack, bind_run, opened]
    exact quiet.1

/-- Unpacking stays beneath the top-level entry exactly when every visit that changes anything is
led there. -/
theorem unpack_stays_beneath_iff :
    StaysBeneath host stream dest tree ↔ LeadsBeneath host stream dest tree := by
  cases isChosen : chosenFor host stream dest tree with
  | none =>
    have untouched := unpacked_untouched isChosen
    simp [StaysBeneath, LeadsBeneath, isChosen, untouched]
  | some place =>
    have recorded := unpacked_recorded isChosen
    constructor
    · intro stays root top same visit member path changes
      rw [isChosen, Option.some.injEq] at same
      rw [same] at recorded
      have touched := (recorded path).mpr ⟨visit, member, changes⟩
      rcases stays path touched with ⟨_, _, alsoChosen, beneath⟩
      rw [isChosen, same, Option.some.injEq, Prod.mk.injEq] at alsoChosen
      rw [alsoChosen.2]
      exact beneath
    · intro leads path touched
      rcases (recorded path).mp touched with ⟨visit, member, changes⟩
      exact ⟨place.1, place.2, isChosen, leads place.1 place.2 isChosen visit member path changes⟩

/-! A link to the directory it lies in, and a file whose path goes through the link. -/

def homeTree : Tree := fun path =>
  if path = ["home"] then some ⟨.dir, 0o755, 0, ""⟩
  else if path = ["home", ".profile"] then some ⟨.file, 0o644, 0, "umask 022"⟩
  else none

def willingHost : Host where
  workingDir := []
  links := 255
  refuses := fun _ => none

def throughLink : Stream where
  headers := [⟨"top", .symlink ".", 0o777, 0⟩,
    ⟨"top/.profile", .regular "umask 000" true, 0o644, 0⟩]
  broken := none

/-- Unpacked at a path that does not exist, it replaces a file beside that path. -/
theorem unpack_through_link_replaces_profile :
    chosenFor willingHost throughLink "/home/new" homeTree =
      some (⟨willingHost, ["home"]⟩, ["home", "new"]) ∧
        ["home", ".profile"] ∈ (unpacked willingHost throughLink "/home/new" homeTree).touched ∧
          ((unpacked willingHost throughLink "/home/new" homeTree).tree ["home", ".profile"]).map
          Node.content = some "umask 000" ∧
          ¬StaysBeneath willingHost throughLink "/home/new" homeTree := by
  have isChosen : chosenFor willingHost throughLink "/home/new" homeTree =
      some (⟨willingHost, ["home"]⟩, ["home", "new"]) := by rfl
  have touched : ["home", ".profile"] ∈
      (unpacked willingHost throughLink "/home/new" homeTree).touched := by
    decide +kernel
  refine ⟨isChosen, touched, by decide +kernel, ?_⟩
  intro stays
  rcases stays _ touched with ⟨root, top, alsoChosen, beneath⟩
  rw [isChosen, Option.some.injEq, Prod.mk.injEq] at alsoChosen
  rw [← alsoChosen.2] at beneath
  revert beneath
  decide

end Dicer.Archive
