import Dicer.Instance.Locking

namespace Dicer.Instance

open FileStore Concurrency

/-!
# Without a lock

What an operation does before it takes a lock, and after it has given it back: it looks up what it
was asked for, and creates definitions.
-/

section

variable {thread : Nat} {facts : Facts} {world : World} {Value : Type}

/-- More instances are known, and may be locked. -/
def Facts.knowing (facts : Facts) (ids : List String) : Facts :=
    { facts with known := ids ++ facts.known }

theorem Roams.knowing (roams : Roams thread facts world) {ids : List String}
    (serving : facts.serving = true) (issued : ∀ id ∈ ids, id ∈ world.issued) :
    Roams thread (facts.knowing ids) world := by
  have settles : ∀ id, world.settled id = true := fun id =>
    World.settled_iff.mpr (.inl (roams.stand.serving serving))
  refine ⟨⟨roams.stand.serving, fun id member => ?_, roams.stand.pending⟩, roams.empty⟩
  rcases List.mem_append.mp member with new | old
  · exact ⟨issued id new, settles id⟩
  · exact roams.stand.known id old

variable {action : Nat → World → List (Value × World)} {nameOrID : String}
    {post : Except Err Unit → Facts → Prop}

theorem Free.perform {post : Value → Facts → Prop}
    (step : ∀ now, Sane now → Roams thread facts now → Answers (fun answer after =>
      (after = now ∨ Move thread now after) ∧
        (Sane after → ∃ later, Roams thread later after ∧ post answer later)) (action thread now)) :
    Free thread (Program.perform action) post facts :=
  Program.Ensures.perform fun now sane roams answer after answered _ =>
    step now sane roams answer after answered

/-- An action that only looks, and may learn of something that stays. -/
theorem Free.looks {post : Value → Facts → Prop} (step : ∀ now, Sane now → Roams thread facts now →
      Answers (fun answer after => after = now ∧ ∃ later, Roams thread later now ∧
        post answer later) (action thread now)) :
    Free thread (Program.perform action) post facts := by
  refine Free.perform fun now sane roams answer after answered => ?_
  rcases step now sane roams answer after answered with ⟨rfl, learned⟩
  exact ⟨.inl rfl, fun _ => learned⟩

theorem storeInstance_then_free {rest : Spec → Call Value} {post : Except Err Value → Facts → Prop}
    (serving : facts.serving = true) (missing : ∀ error, post (.error error) facts)
    (found : ∀ spec, Free thread (rest spec).run post (facts.knowing [spec.id])) :
    Free thread (storeInstance nameOrID >>= rest).run post facts := by
  refine Program.Ensures.bindExcept (Free.looks fun now sane roams => ?_)
  split
  · rename_i spec looked
    refine .one ⟨rfl, _, roams.knowing serving (List.forall_mem_singleton.mpr ?_), found spec⟩
    exact sane.filed.issued spec (sane.filed.coherent.lookup_eq_some.mp looked).1
  · exact .one ⟨rfl, _, roams, missing _⟩

theorem storeInstances_free {post : List Spec → Facts → Prop} (serving : facts.serving = true)
    (listed : ∀ specs, post specs (facts.knowing (specs.map Spec.id))) :
    Free thread storeInstances post facts := by
  refine Free.looks fun now sane roams =>
    .one ⟨rfl, _, roams.knowing serving fun id member => ?_, listed _⟩
  rcases List.mem_map.mp member with ⟨spec, isListed, rfl⟩
  exact sane.filed.issued spec ((List.mem_insertionSort _).mp isListed)

theorem storeSnapshot_free {post : Except Err Snapshot → Facts → Prop}
    (serving : facts.serving = true) (found : ∀ snapshot, post (.ok snapshot)
      (facts.knowing [snapshot.spec.id]))
    (missing : ∀ error, post (.error error) facts) :
    Free thread (storeSnapshot nameOrID).run post facts := by
  refine Free.looks fun now sane roams => ?_
  split
  · rename_i snapshot looked
    refine .one ⟨rfl, _, roams.knowing serving (List.forall_mem_singleton.mpr ?_), found snapshot⟩
    exact sane.filed.taken snapshot (sane.filed.snapshots.lookup_mem looked)
  · exact .one ⟨rfl, _, roams, missing _⟩

instance (name : String) : Calm (checkNameFree name).run := by
  refine .bindExcept fun found => ?_
  cases found <;> infer_instance

theorem storeCreateInstance_free {spec : Spec} {forks : Bool} (serving : facts.serving = true)
    (created : post (.ok ()) (facts.knowing [spec.id]))
    (failed : ∀ error, post (.error error) facts) :
    Free thread (storeCreateInstance spec forks).run post facts := by
  refine Free.perform fun now sane roams => ?_
  split
  · exact .one ⟨.inl rfl, fun _ => ⟨facts, roams, failed _⟩⟩
  split
  · exact .one ⟨.inl rfl, fun _ => ⟨facts, roams, failed _⟩⟩
  rename_i free
  split
  · exact .none
  rename_i fresh
  refine writeDefinition_answers ?_ fun _ => ⟨.inl rfl, fun _ => ⟨facts, roams, failed _⟩⟩
  have move : Move thread now _ :=
    .created spec (if forks then (thread, spec) :: now.forking else now.forking)
      (roams.stand.serving serving) (by simpa using free) (by simpa using fresh)
  refine ⟨.inr move, fun _ => ⟨_, Roams.knowing ?_ serving
    (List.forall_mem_singleton.mpr List.mem_cons_self), created⟩⟩
  exact ⟨roams.stand.kept sane move fun _ => ⟨rfl, rfl⟩, roams.empty⟩

theorem storeCreateSnapshot_free {snapshot : Snapshot} (known : snapshot.spec.id ∈ facts.known)
    (returned : ∀ result, post result facts) :
    Free thread (storeCreateSnapshot snapshot).run post facts := by
  refine Free.perform fun now sane roams => ?_
  split
  · exact .one ⟨.inl rfl, fun _ => ⟨facts, roams, returned _⟩⟩
  split
  · exact .one ⟨.inl rfl, fun _ => ⟨facts, roams, returned _⟩⟩
  rename_i free
  have move : Move thread now { now with snapshots := now.snapshots.put snapshot } := by
    refine .changedSnapshots _ ?_ (sane.filed.snapshots.put (Option.not_isSome_iff_eq_none.mp free))
    exact Definitions.forall_mem_put (roams.stand.known _ known).1 fun other old _ =>
      sane.filed.taken other old
  refine writeDefinition_answers ⟨.inr move, fun _ => ?_⟩ fun _ =>
    ⟨.inl rfl, fun _ => ⟨facts, roams, returned _⟩⟩
  exact ⟨facts, ⟨roams.stand.kept sane move fun _ => ⟨rfl, rfl⟩, roams.empty⟩, returned _⟩

theorem claimRestart_free {id : String} {pending : Nat} {post : Bool → Facts → Prop}
    (returned : ∀ claimed, post claimed facts) :
    Free thread (claimRestart id pending) post facts := by
  refine Free.perform fun now sane roams => ?_
  split
  · rename_i due
    have move : Move thread now _ := .restartClaimed id pending due
    exact .one ⟨.inr move, fun _ =>
      ⟨facts, ⟨roams.stand.kept sane move fun _ => ⟨rfl, rfl⟩, roams.empty⟩, returned _⟩⟩
  · exact .one ⟨.inl rfl, fun _ => ⟨facts, roams, returned _⟩⟩

end

end Dicer.Instance
