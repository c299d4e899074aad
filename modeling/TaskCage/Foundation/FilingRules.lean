import TaskCage.Foundation.Filing
import Mathlib.Logic.Function.Basic

/-!
# Assertions about code on files

`Ensures` is a triple with two postconditions, one for a result and one for an
error.  The number of faults that may still come is part of an assertion: a
call that fails uses one up.
-/

namespace TaskCage
namespace Filing

variable {Place Content Memory Error Other Result Next Item : Type}

/-- From `Pre` the code leads to `Post`, or it fails and leads to `Fails`. -/
def Ensures (Pre : Room Place Content Memory → Prop)
    (program : Filing Place Content Memory Error Result)
    (Post : Result → Room Place Content Memory → Prop)
    (Fails : Error → Room Place Content Memory → Prop) : Prop :=
  ∀ room, Pre room →
    (∀ result, (program room).1 = .ok result → Post result (program room).2) ∧
    ∀ error, (program room).1 = .error error → Fails error (program room).2

namespace Ensures

variable {Pre : Room Place Content Memory → Prop}
variable {program : Filing Place Content Memory Error Result}
variable {Post : Result → Room Place Content Memory → Prop}
variable {Fails : Error → Room Place Content Memory → Prop}

theorem pure {result : Result} (holds : ∀ room, Pre room → Post result room) :
    Ensures Pre (Pure.pure result : Filing Place Content Memory Error Result)
      Post Fails := by
  intro room pre
  refine ⟨?_, nofun⟩
  rintro _ ⟨⟩
  exact holds room pre

theorem throw {error : Error} (holds : ∀ room, Pre room → Fails error room) :
    Ensures Pre (Filing.throw error : Filing Place Content Memory Error Result)
      Post Fails := by
  intro room pre
  refine ⟨nofun, ?_⟩
  rintro _ ⟨⟩
  exact holds room pre

theorem bind {Middle : Result → Room Place Content Memory → Prop}
    {next : Result → Filing Place Content Memory Error Next}
    {Last : Next → Room Place Content Memory → Prop}
    (first : Ensures Pre program Middle Fails)
    (second : ∀ result, Ensures (Middle result) (next result) Last Fails) :
    Ensures Pre (program >>= next) Last Fails := by
  intro room pre
  obtain ⟨returned, failed⟩ := first room pre
  rcases run : program room with ⟨_ | result, reached⟩
  · rw [bind_of_error run]
    rw [run] at failed
    refine ⟨nofun, ?_⟩
    rintro _ ⟨⟩
    exact failed _ rfl
  · rw [bind_of_ok run]
    rw [run] at returned
    exact second result reached (returned result rfl)

/-- Nothing is known about the result. -/
theorem any (fails : ∀ error room, Fails error room) :
    Ensures Pre program (fun _ _ => True) Fails :=
  fun _ _ => ⟨fun _ _ => trivial, fun error _ => fails error _⟩

variable {Hard : Error → Room Place Content Memory → Prop}

theorem mono {Strong : Result → Room Place Content Memory → Prop}
    (ensures : Ensures Pre program Strong Hard)
    (returns : ∀ result room, Strong result room → Post result room)
    (fails : ∀ error room, Hard error room → Fails error room) :
    Ensures Pre program Post Fails := fun room pre =>
  ⟨fun result ended => returns _ _ ((ensures room pre).1 result ended),
    fun error ended => fails _ _ ((ensures room pre).2 error ended)⟩

/-- Two things that are known about the same code. -/
theorem and {OtherPre : Room Place Content Memory → Prop}
    {OtherPost : Result → Room Place Content Memory → Prop}
    {OtherFails : Error → Room Place Content Memory → Prop}
    (ensures : Ensures Pre program Post Fails)
    (also : Ensures OtherPre program OtherPost OtherFails) :
    Ensures (fun room => Pre room ∧ OtherPre room) program
      (fun result room => Post result room ∧ OtherPost result room)
      fun error room => Fails error room ∧ OtherFails error room :=
  fun room ⟨pre, other⟩ =>
    ⟨fun result ended => ⟨(ensures room pre).1 result ended,
      (also room other).1 result ended⟩,
    fun error ended => ⟨(ensures room pre).2 error ended,
      (also room other).2 error ended⟩⟩

theorem strengthen {Weak : Room Place Content Memory → Prop}
    (ensures : Ensures Weak program Post Fails)
    (stronger : ∀ room, Pre room → Weak room) :
    Ensures Pre program Post Fails :=
  fun room pre => ensures room (stronger room pre)

/-- A fact that does not speak about the room may be assumed. -/
theorem and_elim {Fact : Prop}
    (ensures : Fact → Ensures Pre program Post Fails) :
    Ensures (fun room => Fact ∧ Pre room) program Post Fails :=
  fun room ⟨fact, pre⟩ => ensures fact room pre

theorem attempt {Any : Other → Room Place Content Memory → Prop}
    (ensures : Ensures Pre program Post Fails) :
    Ensures Pre (Filing.attempt program)
      (fun outcome room =>
        match outcome with
        | .ok result => Post result room
        | .error error => Fails error room) Any := by
  intro room pre
  refine ⟨?_, nofun⟩
  rintro outcome ⟨⟩
  change match (program room).1 with
    | .ok result => Post result (program room).2
    | .error error => Fails error (program room).2
  cases ended : (program room).1 with
  | ok result => exact (ensures room pre).1 result ended
  | error error => exact (ensures room pre).2 error ended

theorem mapError {change : Error → Other}
    {Hard : Other → Room Place Content Memory → Prop}
    (ensures : Ensures Pre program Post fun error => Hard (change error)) :
    Ensures Pre (Filing.mapError change program) Post Hard := by
  intro room pre
  have ended : (Filing.mapError change program room).1 =
      (program room).1.mapError change := rfl
  rw [ended]
  change (∀ result, _ → Post result (program room).2) ∧
    ∀ error, _ → Hard error (program room).2
  cases outcome : (program room).1 with
  | ok result =>
      refine ⟨?_, nofun⟩
      rintro _ ⟨⟩
      exact (ensures room pre).1 result outcome
  | error error =>
      refine ⟨nofun, ?_⟩
      rintro _ ⟨⟩
      exact (ensures room pre).2 error outcome

theorem ofExcept {outcome : Except Error Result}
    (returns : ∀ result room, outcome = .ok result → Pre room →
      Post result room)
    (fails : ∀ error room, outcome = .error error → Pre room →
      Fails error room) :
    Ensures Pre (Filing.ofExcept outcome) Post Fails := fun room pre =>
  ⟨fun result ended => returns result room ended pre,
    fun error ended => fails error room ended pre⟩

theorem memory {Seen : Memory → Room Place Content Memory → Prop}
    (holds : ∀ room, Pre room → Seen room.memory room) :
    Ensures Pre
      (Filing.memory : Filing Place Content Memory Error Memory) Seen
      Fails := by
  intro room pre
  refine ⟨?_, nofun⟩
  rintro _ ⟨⟩
  exact holds room pre

/-- What is known stays known when the memory is looked at. -/
theorem seen :
    Ensures Pre
      (Filing.memory : Filing Place Content Memory Error Memory)
      (fun seen room => Pre room ∧ room.memory = seen) Fails :=
  .memory fun _ pre => ⟨pre, rfl⟩

theorem modify {change : Memory → Memory}
    {Changed : Unit → Room Place Content Memory → Prop}
    (holds : ∀ room, Pre room →
      Changed () { room with memory := change room.memory }) :
    Ensures Pre
      (Filing.modify change : Filing Place Content Memory Error Unit) Changed
      Fails := by
  intro room pre
  refine ⟨?_, nofun⟩
  rintro _ ⟨⟩
  exact holds room pre

/-- Failing code is repaired before it fails. -/
theorem onError {repair : Filing Place Content Memory Error Unit}
    (ensures : Ensures Pre program Post Hard)
    (repairs : ∀ error, Ensures (Hard error) repair
      (fun _ => Fails error) Fails) :
    Ensures Pre (Filing.onError program repair) Post Fails := by
  refine .bind (Ensures.attempt ensures) fun outcome => ?_
  cases outcome with
  | ok result => exact .pure fun _ post => post
  | error error =>
      exact .bind (repairs error) fun _ => .throw fun _ failed => failed

/-- The invariant of a loop speaks about the items that are left. -/
theorem forEach {body : Item → Filing Place Content Memory Error Unit}
    (Left : List Item → Room Place Content Memory → Prop)
    (step : ∀ item rest, Ensures (Left (item :: rest)) (body item)
      (fun _ => Left rest) Fails) :
    ∀ items, Ensures (Left items) (Filing.forEach items body)
      (fun _ => Left []) Fails := by
  intro items
  induction items with
  | nil => exact .pure fun _ left => left
  | cons item rest inductionHypothesis =>
      exact .bind (step item rest) fun _ => inductionHypothesis

theorem perform {call : Call Place}
    {effect : Files Place Content →
      Except IoError (Result × Files Place Content)}
    {broken : ℕ → Files Place Content → Files Place Content}
    {Refused : IoError → Room Place Content Memory → Prop}
    (done : ∀ room result files, Pre room →
      effect room.files = .ok (result, files) →
      Post result (room.after call (.ok ()) files))
    (refused : ∀ room error, Pre room → effect room.files = .error error →
      Refused error (room.after call (.error error) room.files))
    (failed : ∀ room written, Pre room →
      room.faults.head?.join = some written →
      Refused (.failed written) (room.after call (.error (.failed written))
        (broken written room.files))) :
    Ensures Pre (Filing.perform call effect broken) Post Refused := by
  intro room pre
  unfold Filing.perform
  cases fault : room.faults.head?.join with
  | some written =>
      refine ⟨nofun, ?_⟩
      rintro _ ⟨⟩
      exact failed room written pre fault
  | none =>
      dsimp only
      cases ended : effect room.files with
      | ok value =>
          refine ⟨?_, nofun⟩
          rintro _ ⟨⟩
          exact done room _ _ pre ended
      | error error =>
          refine ⟨nofun, ?_⟩
          rintro _ ⟨⟩
          exact refused room _ pre ended

end Ensures

/-! ### Code that leaves something alone -/

/-- The code does not change what is seen of the room. -/
def Leaves {View : Type} (view : Room Place Content Memory → View)
    (program : Filing Place Content Memory Error Result) : Prop :=
  ∀ room, view (program room).2 = view room

namespace Leaves

variable {View : Type} {view : Room Place Content Memory → View}
variable {program : Filing Place Content Memory Error Result}

theorem pure (result : Result) :
    Leaves view (Pure.pure result : Filing Place Content Memory Error Result) :=
  fun _ => rfl

theorem throw (error : Error) :
    Leaves view
      (Filing.throw error : Filing Place Content Memory Error Result) :=
  fun _ => rfl

theorem ofExcept (outcome : Except Error Result) :
    Leaves view (Filing.ofExcept outcome :
      Filing Place Content Memory Error Result) :=
  fun _ => rfl

theorem bind {next : Result → Filing Place Content Memory Error Next}
    (first : Leaves view program)
    (second : ∀ result, Leaves view (next result)) :
    Leaves view (program >>= next) := by
  intro room
  have kept := first room
  rcases run : program room with ⟨_ | result, reached⟩
  · rw [bind_of_error run]
    rwa [run] at kept
  · rw [bind_of_ok run, second result reached]
    rwa [run] at kept

theorem ite {condition : Prop} [Decidable condition]
    {other : Filing Place Content Memory Error Result}
    (leaves : Leaves view program) (otherwise : Leaves view other) :
    Leaves view (if condition then program else other) := by
  split
  · exact leaves
  · exact otherwise

theorem attempt (leaves : Leaves view program) :
    Leaves view (Filing.attempt program :
      Filing Place Content Memory Other (Except Error Result)) :=
  leaves

theorem mapError {change : Error → Other} (leaves : Leaves view program) :
    Leaves view (Filing.mapError change program) :=
  leaves

theorem modify {change : Memory → Memory}
    (kept : ∀ room : Room Place Content Memory,
      view { room with memory := change room.memory } = view room) :
    Leaves view (Filing.modify change :
      Filing Place Content Memory Error Unit) :=
  kept

theorem onError {repair : Filing Place Content Memory Error Unit}
    (leaves : Leaves view program) (repairs : Leaves view repair) :
    Leaves view (Filing.onError program repair) := by
  refine .bind (.attempt leaves) fun outcome => ?_
  cases outcome with
  | ok result => exact .pure result
  | error error => exact .bind repairs fun _ => .throw error

theorem ignoring (leaves : Leaves view program) :
    Leaves view (Filing.ignoring program :
      Filing Place Content Memory Other Unit) :=
  .bind (.attempt leaves) fun _ => .pure ()

theorem forEach {body : Item → Filing Place Content Memory Error Unit}
    (leaves : ∀ item, Leaves view (body item)) (items : List Item) :
    Leaves view (Filing.forEach items body) := by
  induction items with
  | nil => exact .pure ()
  | cons item rest inductionHypothesis =>
      exact .bind (leaves item) fun _ => inductionHypothesis

/-- A call leaves alone what does not depend on the files that it may
change. -/
theorem perform {call : Call Place}
    {effect : Files Place Content →
      Except IoError (Result × Files Place Content)}
    {broken : ℕ → Files Place Content → Files Place Content}
    (done : ∀ room result files, effect room.files = .ok (result, files) →
      view (room.after call (.ok ()) files) = view room)
    (refused : ∀ room error,
      view (room.after call (.error error) room.files) = view room)
    (failed : ∀ room written,
      view (room.after call (.error (.failed written))
        (broken written room.files)) = view room) :
    Leaves view (Filing.perform call effect broken :
      Filing Place Content Memory IoError Result) := by
  intro room
  unfold Filing.perform
  split
  · exact failed room _
  · split
    · rename_i ended
      exact done room _ _ ended
    · exact refused room _

/-- What is known about the view stays. -/
theorem ensures (leaves : Leaves view program) (Known : View → Prop) :
    Ensures (fun room => Known (view room)) program
      (fun _ room => Known (view room)) fun _ room => Known (view room) := by
  intro room known
  rw [← leaves room] at known
  exact ⟨fun _ _ => known, fun _ _ => known⟩

end Leaves

/-- The code uses files only. -/
abbrev Spares (program : Filing Place Content Memory Error Result) : Prop :=
  Leaves Room.memory program

theorem Spares.perform {call : Call Place}
    {effect : Files Place Content →
      Except IoError (Result × Files Place Content)}
    {broken : ℕ → Files Place Content → Files Place Content} :
    Spares (Filing.perform call effect broken :
      Filing Place Content Memory IoError Result) :=
  Leaves.perform (fun _ _ _ _ => rfl) (fun _ _ => rfl) fun _ _ => rfl

section Others

variable [DecidableEq Place] {place other source target : Place}

/-- One file of the room. -/
def Room.file (other : Place) (room : Room Place Content Memory) :
    Option Content :=
  room.files other

theorem Files.set_of_ne (files : Files Place Content)
    (different : other ≠ place) (content : Option Content) :
    files.set place content other = files other := by
  simp [Files.set, different]

theorem leaves_create (different : other ≠ place) (content : Content) :
    Leaves (Room.file other) (create place content :
      Filing Place Content Memory IoError Unit) := by
  refine .perform (fun room _ files ended => ?_) (fun _ _ => rfl) fun _ _ => rfl
  unfold Files.afterCreate at ended
  split at ended
  · cases ended
  · cases ended
    exact Files.set_of_ne _ different _

theorem leaves_write (different : other ≠ place)
    {fully : Content → Content} {partly : ℕ → Content → Content} :
    Leaves (Room.file other) (write place fully partly :
      Filing Place Content Memory IoError Unit) := by
  refine .perform (fun room _ files ended => ?_) (fun _ _ => rfl)
    fun _ _ => Files.set_of_ne _ different _
  cases ended
  exact Files.set_of_ne _ different _

theorem leaves_rename (kept : other ≠ source) (apart : other ≠ target) :
    Leaves (Room.file other) (rename source target :
      Filing Place Content Memory IoError Unit) := by
  refine .perform (fun room _ files ended => ?_) (fun _ _ => rfl) fun _ _ => rfl
  unfold Files.afterRename at ended
  split at ended
  · cases ended
    exact (Files.set_of_ne _ kept _).trans (Files.set_of_ne _ apart _)
  · cases ended

theorem leaves_openAppend (place other : Place) :
    Leaves (Room.file other) (openAppend place :
      Filing Place Content Memory IoError Unit) := by
  refine .perform (fun room _ files ended => ?_) (fun _ _ => rfl) fun _ _ => rfl
  unfold Files.afterOpen at ended
  split at ended
  · cases ended
    rfl
  · cases ended

theorem leaves_read (place other : Place) :
    Leaves (Room.file other) (read place :
      Filing Place Content Memory IoError Content) := by
  refine .perform (fun room _ files ended => ?_) (fun _ _ => rfl) fun _ _ => rfl
  unfold Files.afterRead at ended
  split at ended
  · cases ended
    rfl
  · cases ended

theorem leaves_remove (different : other ≠ place) :
    Leaves (Room.file other) (remove place :
      Filing Place Content Memory IoError Unit) := by
  refine .perform (fun room _ files ended => ?_) (fun _ _ => rfl) fun _ _ => rfl
  unfold Files.afterRemove at ended
  split at ended
  · cases ended
    exact Files.set_of_ne _ different _
  · cases ended

end Others

/-- An assertion about the memory. -/
def Remembers (Known : Memory → Prop) (room : Room Place Content Memory) :
    Prop :=
  Known room.memory

section Remembers

variable {Known : Memory → Prop}
variable {Fails : Error → Room Place Content Memory → Prop}

/-- What is known about the memory stays. -/
theorem Spares.ensures {program : Filing Place Content Memory Error Result}
    (spares : Spares program) :
    Ensures (Remembers Known) program (fun _ => Remembers Known)
      fun _ => Remembers Known :=
  Leaves.ensures spares Known

theorem ensures_memory :
    Ensures (Remembers Known)
      (memory : Filing Place Content Memory Error Memory)
      (fun seen => Remembers fun state => Known state ∧ state = seen) Fails :=
  .memory fun _ known => ⟨known, rfl⟩

theorem ensures_modify (change : Memory → Memory) :
    Ensures (Remembers Known)
      (modify change : Filing Place Content Memory Error Unit)
      (fun _ => Remembers fun state => ∃ before, Known before ∧
        state = change before) Fails :=
  .modify fun room known => ⟨room.memory, known, rfl⟩

theorem ensures_ofExcept {Error : Type} {Known : Memory → Prop}
    (outcome : Except Error Result) :
    Ensures (Remembers Known)
      (ofExcept outcome : Filing Place Content Memory Error Result)
      (fun result => Remembers fun state => outcome = .ok result ∧ Known state)
      fun _ => Remembers Known :=
  .ofExcept (fun _ _ ended known => ⟨ended, known⟩) fun _ _ _ known => known

/-- A loop whose items are left alone by the earlier ones. -/
theorem ensures_forEach {Error : Type}
    {body : Item → Filing Place Content Memory Error Unit}
    {Known : Memory → Prop} (Left : List Item → Memory → Prop)
    (step : ∀ item rest,
      Ensures (Remembers (Left (item :: rest))) (body item)
        (fun _ => Remembers (Left rest)) fun _ => Remembers Known)
    (items : List Item) :
    Ensures (Remembers (Left items)) (forEach items body)
      (fun _ => Remembers (Left [])) fun _ => Remembers Known :=
  .forEach (fun items => Remembers (Left items)) step items

end Remembers

/-! ### Faults -/

end Filing
end TaskCage
