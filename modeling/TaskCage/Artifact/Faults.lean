import TaskCage.Artifact.Directory

/-!
# Directories of the store when one call fails

Each operation on a directory is one or more calls.  For every operation it is
said what it does, which of its calls can have failed when it fails, and what
the tree looks like then.  Assertions speak about the number of calls so far, so
that a fault is a number.
-/

namespace TaskCage
namespace ArtifactStore

open FileTree
open Capsule (joinPath nul isTaskId)

/-- The call that failed is one of those with these numbers, and it is over. -/
def Hit (index : Option ℕ) (low high : ℕ) (disk : Disk) : Prop :=
  ∃ number, index = some number ∧ low ≤ number ∧ number < high ∧
    number < disk.log.length

/-- The call that fails is none of those with these numbers. -/
def Missed (index : Option ℕ) (low high : ℕ) : Prop :=
  ∀ number, index = some number → low ≤ number → high ≤ number

/-- A removal of a whole directory. -/
def isRemoval : Call → Bool
  | .removeAll _ => true
  | _ => false

/-- Any call may be the one that is refused, except a removal. -/
abbrev lone (index : Option ℕ) (damage : Damage) : Kernel :=
  .oneFault index damage isRemoval

/-- A name that the store may use for an entry. -/
structure IsEntry (name : String) : Prop where
  plain : Tree.IsPlain name.toList
  clean : nul ∉ name.toList

theorem isEntry_iff {name : String} :
    IsEntry name ↔
      (name.toList ≠ [] ∧ name.toList ≠ ['.'] ∧ name.toList ≠ ['.', '.'] ∧
        '/' ∉ name.toList) ∧ nul ∉ name.toList :=
  ⟨fun ⟨⟨filled, notHere, notParent, single⟩, clean⟩ =>
      ⟨⟨filled, notHere, notParent, single⟩, clean⟩,
    fun ⟨⟨filled, notHere, notParent, single⟩, clean⟩ =>
      ⟨⟨filled, notHere, notParent, single⟩, clean⟩⟩

instance : DecidablePred IsEntry :=
  fun _ => decidable_of_iff _ isEntry_iff.symm

/-- Where a directory was opened. -/
abbrev ArtifactDirectory.place (directory : ArtifactDirectory) : Place :=
  directory.descriptor.place

/-- The child of a directory as it is opened. -/
def ArtifactDirectory.child (directory : ArtifactDirectory) (name : String) :
    ArtifactDirectory :=
  ⟨⟨directory.place ++ [name.toList], .directory directory.device⟩,
    joinPath directory.path name, directory.device⟩

@[simp]
theorem ArtifactDirectory.place_child (directory : ArtifactDirectory)
    (name : String) :
    (directory.child name).place = directory.place ++ [name.toList] :=
  rfl

/-- A directory as an entry of a tree. -/
def ArtifactDirectory.entry (directory : ArtifactDirectory) : Place × Node :=
  (directory.place, .directory directory.device)

/-- The directory is where it was opened. -/
def ArtifactDirectory.Stands (directory : ArtifactDirectory) (tree : Tree) :
    Prop :=
  tree.find directory.place = some (.directory directory.device)

variable {index : Option ℕ} {damage : Damage} {calls : ℕ}
variable {Here There : Tree → Prop} {Fails : Error → Disk → Prop}
variable {directory : ArtifactDirectory} {name : String}
variable {kernel : Kernel} {disk : Disk} {high low : ℕ} {tree : Tree}
variable {base : String}

theorem ensures_cName_clean {Pre : Disk → Prop} {path : String}
    (clean : nul ∉ name.toList) :
    Code.Ensures kernel Pre (cName name path)
      (fun chars disk => chars = name.toList ∧ Pre disk) Fails := by
  intro disk pre
  unfold cName Code.ofExcept
  rw [if_neg clean]
  exact ⟨rfl, pre⟩

/-- A call that leaves the tree alone. -/
theorem ensures_quiet {Result : Type} {call : Call} {result : Result}
    {Fails : Errno → Disk → Prop} (faulty : isRemoval call = false)
    (failed : ∀ errno disk, Here disk.tree →
      Hit index calls (calls + 1) disk → Fails errno disk) :
    Code.Ensures (lone index damage) (At calls Here)
      (.perform call (fun tree => .ok (result, tree)) unharmed)
      (fun found disk => (found = result ∧ index ≠ some calls) ∧
        At (calls + 1) Here disk)
      Fails := by
  refine (Code.Ensures.call (fun found tree =>
    (found = result ∧ index ≠ some calls) ∧ Here tree) ?_ ?_ ?_).mono ?_
  · intro tree found reached here passed ended
    cases ended
    exact ⟨⟨rfl, fun hit => passed ⟨hit, faulty⟩⟩, here⟩
  · intro tree errno disk _ ended
    cases ended
  · rintro tree disk here hit _ ⟨long, same⟩
    refine failed _ disk (same ▸ here) ⟨calls, hit, Nat.le_refl _, ?_, ?_⟩
    · exact Nat.lt_succ_self _
    · rw [long]
      exact Nat.lt_succ_self _
  · rintro found disk ⟨long, same, here⟩
    exact ⟨same, long, here⟩

theorem Hit.widen {first last : ℕ} (hit : Hit index low high disk)
    (before : first ≤ low) (after : high ≤ last) :
    Hit index first last disk := by
  obtain ⟨number, same, lower, upper, past⟩ := hit
  exact ⟨number, same, before.trans lower, Nat.lt_of_lt_of_le upper after, past⟩

theorem Hit.lt_length (hit : Hit index (low + 1) high disk) :
    low < disk.log.length := by
  obtain ⟨number, -, lower, -, past⟩ := hit
  omega

theorem hit_of_refused (hit : index = some calls)
    (reached : At (calls + 1) (· = tree) disk) :
    Hit index calls (calls + 1) disk := by
  refine ⟨calls, hit, Nat.le_refl _, Nat.lt_succ_self _, ?_⟩
  rw [reached.1]
  exact Nat.lt_succ_self _

theorem missed_two (first : index ≠ some calls)
    (second : index ≠ some (calls + 1)) : Missed index calls (calls + 2) := by
  intro number same low
  have notFirst : number ≠ calls := fun equal => first (equal ▸ same)
  have notSecond : number ≠ calls + 1 := fun equal => second (equal ▸ same)
  omega

/-! ### Directories -/

/-- What opening an entry of a directory does. -/
theorem afterOpen_plain {here : Place} {name : Name}
    (plain : Tree.IsPlain name) (standing : tree.HasDirectory here)
    (directory : Bool) :
    tree.afterOpen here name directory =
      match tree.find (here ++ [name]) with
      | none => .error .notFound
      | some node =>
          if node.isLink then .error .loop
          else if directory && !node.isDirectory then .error .notDirectory
          else .ok (⟨here ++ [name], node⟩, tree) := by
  unfold Tree.afterOpen
  rw [if_neg plain.filled, Tree.splitOn_of_single plain.single]
  cases found : tree.find (here ++ [name]) with
  | none =>
      cases walked : tree.walk Tree.maxSteps here [name] with
      | none => rfl
      | some place =>
          obtain ⟨rfl, -⟩ := Tree.walk_plain plain walked
          dsimp only
          rw [found]
  | some node =>
      rw [Tree.walk_plain_eq plain standing found]
      dsimp only
      rw [found]

section Entries

variable (entry : IsEntry name)
variable (stands : ∀ tree, Here tree → directory.Stands tree)

include entry stands

/-- Opening a child fails because a call fails, or because there is no such
directory on the device. -/
theorem ensures_openChild_at
    (failed : ∀ error disk, Here disk.tree → calls < disk.log.length →
      Hit index calls (calls + 2) disk ∨
        ¬(directory.child name).Stands disk.tree → Fails error disk) :
    Code.Ensures (lone index damage) (At calls Here)
      (directory.openChild name)
      (fun child disk =>
        (child = directory.child name ∧ Missed index calls (calls + 2)) ∧
        At (calls + 2) (fun tree =>
          Here tree ∧ (directory.child name).Stands tree) disk) Fails := by
  refine .bind (ensures_cName_clean entry.clean) fun chars => .given ?_
  rintro rfl
  refine .bind (.mapError (Code.Ensures.call (fun descriptor tree =>
    Here tree ∧ index ≠ some calls ∧
      tree.find descriptor.place = some descriptor.node ∧
      descriptor.place = (directory.child name).place ∧
      descriptor.node.isDirectory = true) ?_ ?_ ?_)) fun descriptor => ?_
  · intro tree descriptor reached here passed ended
    rw [afterOpen_plain entry.plain ⟨_, stands tree here⟩] at ended
    split at ended
    · cases ended
    rename_i node found
    split at ended
    · cases ended
    split at ended
    · cases ended
    rename_i isDirectory
    cases ended
    exact ⟨here, fun hit => passed ⟨hit, rfl⟩, found, rfl,
      by simpa using isDirectory⟩
  · rintro tree errno disk here ended ⟨long, rfl⟩
    refine failed _ disk here (long ▸ Nat.lt_succ_self _)
      (.inr fun standing => ?_)
    rw [afterOpen_plain entry.plain ⟨_, stands _ here⟩] at ended
    change disk.tree.find _ = _ at standing
    dsimp only [ArtifactDirectory.child] at standing
    rw [standing] at ended
    cases ended
  · rintro tree disk here hit _ reached
    refine failed _ disk (reached.2 ▸ here)
      (reached.1 ▸ Nat.lt_succ_self _) (.inl ?_)
    exact (hit_of_refused hit reached).widen (Nat.le_refl _) (Nat.le_succ _)
  refine .bind (.mapError (ensures_quiet rfl ?_)) fun metadata => .given ?_
  · rintro errno disk ⟨here, -⟩ hit
    exact failed _ disk here hit.lt_length
      (.inl (hit.widen (Nat.le_succ _) (Nat.le_refl _)))
  rintro ⟨rfl, second⟩
  by_cases isDirectory : descriptor.node.isDirectory = false
  · rw [if_pos isDirectory]
    refine .throw ?_
    rintro disk ⟨-, -, -, -, -, isDirectory'⟩
    rw [isDirectory] at isDirectory'
    cases isDirectory'
  rw [if_neg isDirectory]
  by_cases same : descriptor.node.device = directory.device
  · rw [if_neg (by simpa using same)]
    refine .pure ?_
    rintro disk ⟨long, here, first, found, place, isDirectory⟩
    have whole := Node.eq_directory isDirectory
    obtain ⟨reached, node⟩ := descriptor
    rw [same] at whole
    subst whole place
    exact ⟨⟨rfl, missed_two first second⟩, long, here, found⟩
  · rw [if_pos (by simpa using same)]
    refine .throw ?_
    rintro disk ⟨long, here, -, found, place, -⟩
    refine failed _ disk here (by omega) (.inr fun standing => same ?_)
    rw [ArtifactDirectory.Stands, ← place, found] at standing
    rw [Option.some.inj standing]
    rfl

/-- What making an entry of a directory does. -/
theorem afterCreate_plain {tree : Tree} (here : Here tree) (make : ℕ → Node) :
    tree.afterCreate directory.place name.toList make =
      match tree.find (directory.child name).place with
      | some _ => .error .alreadyExists
      | none =>
          .ok (⟨(directory.child name).place, make directory.device⟩,
            ((directory.child name).place, make directory.device) :: tree) := by
  unfold Tree.afterCreate
  rw [Tree.locate_plain entry.plain ⟨_, stands tree here⟩]
  dsimp only [ArtifactDirectory.child]
  rw [List.dropLast_concat, Tree.deviceAt, stands tree here]
  rfl

/-- Making an entry: the two ways to end. -/
theorem ensures_create {Fails : Errno → Disk → Prop} {call : Call}
    {make : ℕ → Node} (faulty : isRemoval call = false)
    (made : ∀ tree, Here tree → tree.find (directory.child name).place = none →
      There (((directory.child name).place, make directory.device) :: tree))
    (failed : ∀ errno disk, At (calls + 1) Here disk →
      Hit index calls (calls + 1) disk ∨ errno = .alreadyExists ∧
        disk.tree.find (directory.child name).place ≠ none →
      Fails errno disk) :
    Code.Ensures (lone index damage) (At calls Here)
      (.perform call (fun tree =>
        tree.afterCreate directory.place name.toList make) unharmed)
      (fun file disk =>
        (file = ⟨(directory.child name).place, make directory.device⟩ ∧
          index ≠ some calls) ∧ At (calls + 1) There disk)
      Fails := by
  refine (Code.Ensures.call (fun file tree =>
    (file = ⟨(directory.child name).place, make directory.device⟩ ∧
      index ≠ some calls) ∧ There tree) ?_ ?_ ?_).mono ?_
  · intro tree file reached here passed ended
    rw [afterCreate_plain entry stands here] at ended
    split at ended
    · cases ended
    rename_i absent
    cases ended
    exact ⟨⟨rfl, fun hit => passed ⟨hit, faulty⟩⟩, made tree here absent⟩
  · rintro tree errno disk here ended ⟨long, rfl⟩
    rw [afterCreate_plain entry stands here] at ended
    split at ended
    · rename_i found
      cases ended
      refine failed _ disk ⟨long, here⟩ (.inr ⟨rfl, ?_⟩)
      rw [found]
      exact Option.some_ne_none _
    · cases ended
  · rintro tree disk here hit _ reached
    exact failed _ disk ⟨reached.1, reached.2 ▸ here⟩
      (.inl (hit_of_refused hit reached))
  · rintro file disk ⟨long, same, there⟩
    exact ⟨same, long, there⟩

/-- Making a file. -/
theorem ensures_createRegularFile
    (made : ∀ tree, Here tree → tree.find (directory.child name).place = none →
      There (((directory.child name).place,
        .regular directory.device []) :: tree))
    (failed : ∀ error disk, Here disk.tree →
      Hit index calls (calls + 1) disk ∨
        disk.tree.find (directory.child name).place ≠ none →
      Fails error disk) :
    Code.Ensures (lone index damage) (At calls Here)
      (directory.createRegularFile name)
      (fun file disk =>
        (file = ⟨(directory.child name).place,
          .regular directory.device []⟩ ∧ index ≠ some calls) ∧
        At (calls + 1) There disk) Fails := by
  refine .bind (ensures_cName_clean entry.clean) fun chars => .given ?_
  rintro rfl
  refine .mapError (ensures_create entry stands rfl made ?_)
  intro errno disk here cause
  exact failed _ disk here.2 (cause.imp id And.right)

variable (made : ∀ tree, Here tree →
  tree.find (directory.child name).place = none →
  There ((directory.child name).entry :: tree))
variable (standing : ∀ tree, There tree →
  directory.Stands tree ∧ (directory.child name).Stands tree)

include made

/-- Making a directory: the two ways to end. -/
theorem ensures_mkdirat {Fails : Errno → Disk → Prop}
    (failed : ∀ errno disk, At (calls + 1) Here disk →
      Hit index calls (calls + 1) disk ∨ errno = .alreadyExists ∧
        disk.tree.find (directory.child name).place ≠ none →
      Fails errno disk) :
    Code.Ensures (lone index damage) (At calls Here)
      (mkdirat directory.place name.toList)
      (fun _ => At (calls + 1) There) Fails :=
  .bind (ensures_create entry stands rfl made failed)
    fun _ => .given fun _ => .pure fun _ there => there

include standing

/-- Making a child directory.  If the call that makes it is the one that fails,
or the name is taken, nothing is made; if a later one fails, the directory is
left. -/
theorem ensures_createChild
    (failed : ∀ error disk, Here disk.tree →
      Hit index calls (calls + 1) disk ∨
        disk.tree.find (directory.child name).place ≠ none →
      Fails error disk)
    (left : ∀ error disk, There disk.tree →
      Hit index (calls + 1) (calls + 3) disk → Fails error disk) :
    Code.Ensures (lone index damage) (At calls Here)
      (directory.createChild name)
      (fun child disk =>
        (child = directory.child name ∧ Missed index (calls + 1) (calls + 3)) ∧
        At (calls + 3) There disk) Fails := by
  refine .bind (ensures_cName_clean entry.clean) fun chars => .given ?_
  rintro rfl
  refine .bind (.mapError (ensures_mkdirat entry stands made ?_)) fun _ => ?_
  · intro errno disk here cause
    exact failed _ disk here.2 (cause.imp id And.right)
  refine (ensures_openChild_at entry (fun tree there =>
    (standing tree there).1) ?_).mono ?_
  · intro error disk there _ cause
    refine left error disk there (cause.resolve_right ?_)
    exact not_not.2 (standing _ there).2
  · rintro child disk ⟨same, long, there, -⟩
    exact ⟨same, long, there⟩

/-- Opening a child that is made if it is missing.  What is found there in the
place of a directory of the device makes it fail. -/
theorem ensures_openOrCreateChild
    (kept : ∀ tree, Here tree → (directory.child name).Stands tree → There tree)
    (failed : ∀ error disk, Here disk.tree ∨ There disk.tree →
      Hit index calls (calls + 3) disk ∨ Here disk.tree ∧
        disk.tree.find (directory.child name).place ≠ none ∧
        ¬(directory.child name).Stands disk.tree → Fails error disk) :
    Code.Ensures (lone index damage) (At calls Here)
      (directory.openOrCreateChild name)
      (fun child disk => child = directory.child name ∧
        At (calls + 3) There disk) Fails := by
  refine .bind (ensures_cName_clean entry.clean) fun chars => .given ?_
  rintro rfl
  have making : Code.Ensures (lone index damage) (At calls Here)
      (mkdirat directory.place name.toList) (fun _ => At (calls + 1) There)
      (fun errno => At (calls + 1) fun tree =>
        Here tree ∧ (index = some calls ∨ errno = .alreadyExists ∧
          tree.find (directory.child name).place ≠ none)) := by
    refine ensures_mkdirat entry stands made ?_
    rintro errno disk ⟨long, here⟩ cause
    refine ⟨long, here, cause.imp ?_ id⟩
    rintro ⟨number, hit, low, high, -⟩
    rw [hit, Nat.le_antisymm (Nat.le_of_lt_succ high) low]
  refine .bind (.attempt making) fun outcome => ?_
  cases outcome with
  | ok done =>
      refine (ensures_openChild_at entry
        (fun tree there => (standing tree there).1) ?_).mono ?_
      · intro error disk there _ cause
        have hit := cause.resolve_right (not_not.2 (standing _ there).2)
        exact failed error disk (.inr there)
          (.inl (hit.widen (Nat.le_succ _) (Nat.le_refl _)))
      · rintro child disk ⟨⟨same, -⟩, long, there, -⟩
        exact ⟨same, long, there⟩
  | error errno =>
      dsimp only
      by_cases taken : errno = .alreadyExists
      · rw [if_pos taken]
        refine (ensures_openChild_at entry
          (fun tree here => stands tree here.1) ?_).mono ?_
        · rintro error disk ⟨here, reason⟩ past cause
          refine failed error disk (.inl here) ?_
          rcases reason with hit | ⟨-, found⟩
          · exact .inl ⟨calls, hit, by omega, by omega, by omega⟩
          · exact cause.imp
              (fun hit => hit.widen (Nat.le_succ _) (Nat.le_refl _))
              fun fallen => ⟨here, found, fallen⟩
        · rintro child disk ⟨⟨same, -⟩, long, ⟨here, -⟩, stands⟩
          exact ⟨same, long, kept _ here stands⟩
      · rw [if_neg taken]
        refine .throw ?_
        rintro disk ⟨long, here, reason⟩
        have hit := reason.resolve_right fun reason => taken reason.1
        exact failed _ disk (.inl here)
          (.inl ⟨calls, hit, by omega, by omega, by omega⟩)

end Entries

/-! ### Other operations -/

/-- Having a directory reach the disk. -/
theorem ensures_syncAll
    (failed : ∀ error disk, Here disk.tree →
      Hit index calls (calls + 2) disk → Fails error disk) :
    Code.Ensures (lone index damage) (At calls Here)
      directory.syncAll (fun _ => At (calls + 2) Here) Fails := by
  refine .bind (.mapError (ensures_quiet rfl ?_)) fun _ => .given fun _ => ?_
  · intro errno disk here hit
    exact failed _ disk here (hit.widen (Nat.le_refl _) (Nat.le_succ _))
  refine .mapError ((ensures_quiet rfl ?_).mono ?_)
  · intro errno disk here hit
    exact failed _ disk here (hit.widen (Nat.le_succ _) (Nat.le_refl _))
  · rintro _ disk ⟨-, here⟩
    exact here

/-- Having a directory reach the disk changes nothing, whatever fails. -/
theorem ensures_syncAll_quiet :
    Code.Ensures kernel (fun disk => Here disk.tree) directory.syncAll
      (fun _ disk => Here disk.tree) (fun _ disk => Here disk.tree) :=
  .bind (.mapError .still) fun _ => .mapError .still

/-- A removal that is not refused. -/
theorem ensures_removeAll (top : Place)
    (found : ∀ tree, Here tree → tree.find top ≠ none →
      There (tree.without top))
    (missing : ∀ tree, Here tree → tree.find top = none → There tree) :
    Code.Ensures (lone index damage) (fun disk => Here disk.tree)
      (removeAll top) (fun _ disk => There disk.tree)
      (fun _ disk => There disk.tree) := by
  apply Code.Ensures.perform
  · intro disk result tree here _ ended
    cases there : disk.tree.find top with
    | none =>
        rw [there] at ended
        cases ended
    | some node =>
        rw [there] at ended
        cases ended
        exact found _ here (by simp [there])
  · intro disk errno here ended
    cases there : disk.tree.find top with
    | none => exact missing _ here there
    | some node =>
        rw [there] at ended
        cases ended
  · intro disk found here asked
    unfold lone Kernel.oneFault at asked
    rw [if_neg (by simp [isRemoval])] at asked
    cases asked

/-- A removal whose outcome does not matter. -/
theorem ensures_attempt_removeTree {Any : Error → Disk → Prop}
    (found : ∀ tree, Here tree → tree.find directory.place ≠ none →
      There (tree.without directory.place))
    (missing : ∀ tree, Here tree →
      tree.find directory.place = none → There tree) :
    Code.Ensures (lone index damage) (fun disk => Here disk.tree)
      (.attempt directory.removeTree : Code Error (Except Error Unit))
      (fun _ disk => There disk.tree) Any := by
  have removed : Code.Ensures (lone index damage)
      (fun disk => Here disk.tree) directory.removeTree
      (fun _ disk => There disk.tree) (fun _ disk => There disk.tree) :=
    .mapError (ensures_removeAll _ found missing)
  refine (Code.Ensures.attempt removed).mono ?_
  intro outcome disk there
  cases outcome with
  | ok done => exact there
  | error error => exact there

/-- Moving a file to another directory. -/
theorem ensures_moveNoReplace
    {target : ArtifactDirectory} {newName : String} (entry : IsEntry name)
    (newEntry : IsEntry newName)
    (stands : ∀ tree, Here tree → directory.Stands tree ∧ target.Stands tree)
    (moved : ∀ tree node, Here tree →
      tree.find (directory.child name).place = some node →
      tree.find (target.child newName).place = none →
      There (((target.child newName).place, node) ::
        tree.without (directory.child name).place))
    (failed : ∀ error disk, At (calls + 1) Here disk → Fails error disk) :
    Code.Ensures (lone index damage) (At calls Here)
      (moveNoReplace directory name target newName)
      (fun _ => At (calls + 1) There) Fails := by
  refine .bind (ensures_cName_clean entry.clean) fun chars => .given ?_
  rintro rfl
  refine .bind (ensures_cName_clean newEntry.clean) fun chars => .given ?_
  rintro rfl
  refine .mapError (Code.Ensures.call (fun _ => There) ?_ ?_ ?_)
  · intro tree result reached here _ ended
    obtain ⟨first, second⟩ := stands tree here
    rw [Tree.locate_plain entry.plain ⟨_, first⟩,
      Tree.locate_plain newEntry.plain ⟨_, second⟩] at ended
    unfold Tree.afterRename at ended
    dsimp only at ended
    split at ended
    · cases ended
    · cases ended
    · rename_i node found absent
      split at ended
      · cases ended
      · cases ended
        exact moved tree _ here found absent
  · rintro tree errno disk here _ ⟨long, rfl⟩
    exact failed _ disk ⟨long, here⟩
  · rintro tree disk here _ _ ⟨long, same⟩
    exact failed _ disk ⟨long, same ▸ here⟩

theorem splitOn_joinPath (entry : IsEntry name) :
    ∃ front, (joinPath base name).toList.splitOn '/' =
      front ++ [name.toList] := by
  have alone := Tree.splitOn_of_single entry.plain.single
  have behind : ∀ front : List Char,
      (front ++ '/' :: name.toList).splitOn '/' =
        front.splitOn '/' ++ [name.toList] := by
    intro front
    rw [← alone]
    exact List.splitOnP_append_cons front name.toList rfl
  have relative : name.toList.head? ≠ some '/' := fun first =>
    entry.plain.single (List.mem_of_mem_head? first)
  unfold joinPath
  rw [if_neg relative]
  split
  · rename_i ends
    rcases List.eq_nil_or_concat base.toList with nothing | ⟨front, last, shape⟩
    · refine ⟨[], ?_⟩
      rw [String.toList_append, nothing, List.nil_append, alone]
      rfl
    · rw [shape, List.concat_eq_append, List.getLast?_concat] at ends
      have slash : last = '/' := by simpa using ends
      refine ⟨front.splitOn '/', ?_⟩
      rw [String.toList_append, shape, slash, List.concat_eq_append,
        List.append_assoc, List.singleton_append, behind]
  · refine ⟨base.toList.splitOn '/', ?_⟩
    rw [String.toList_append, String.toList_append, List.append_assoc]
    exact behind _

theorem fileName_joinPath (entry : IsEntry name) :
    ArtifactDirectory.fileName (joinPath base name) = some name := by
  obtain ⟨front, shape⟩ := splitOn_joinPath entry
  unfold ArtifactDirectory.fileName
  have kept : (decide (name.toList ≠ []) && decide (name.toList ≠ ['.'])) =
      true := by
    simp [entry.plain.filled, entry.plain.notHere]
  rw [shape, List.filter_append, List.filter_cons, if_pos kept,
    List.filter_nil, List.getLast?_concat]
  dsimp only
  rw [if_neg entry.plain.notParent, String.ofList_toList]

/-- Removing a child that is empty. -/
theorem ensures_removeEmptyFrom
    (entry : IsEntry name)
    (stands : ∀ tree, Here tree → directory.Stands tree)
    (removed : ∀ tree, Here tree →
      There (tree.without (directory.child name).place))
    (failed : ∀ error disk, Here disk.tree ∨ There disk.tree →
      Fails error disk) :
    Code.Ensures (lone index damage) (At calls Here)
      ((directory.child name).removeEmptyFrom directory)
      (fun _ => At (calls + 3) There) Fails := by
  unfold ArtifactDirectory.removeEmptyFrom
  have named : ArtifactDirectory.fileName (directory.child name).path =
      some name := fileName_joinPath entry
  rw [named]
  refine .bind (ensures_cName_clean entry.clean) fun chars => .given ?_
  rintro rfl
  refine .bind (.mapError (Code.Ensures.call (fun _ => There) ?_ ?_ ?_))
    fun _ => ensures_syncAll fun error disk there _ =>
      failed error disk (.inr there)
  · intro tree result reached here _ ended
    unfold Tree.afterUnlink at ended
    rw [Tree.locate_plain entry.plain ⟨_, stands tree here⟩] at ended
    dsimp only at ended
    split at ended
    · cases ended
    split at ended
    · cases ended
    split at ended
    · cases ended
    cases ended
    exact removed tree here
  · rintro tree errno disk here _ ⟨long, rfl⟩
    exact failed _ disk (.inl here)
  · rintro tree disk here _ _ ⟨long, same⟩
    exact failed _ disk (.inl (same ▸ here))

end ArtifactStore
end TaskCage
