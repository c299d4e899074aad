import TaskCage.Foundation.History

/-!
# Waiting for a condition with notifications

Publishers change a shared state step by step and notify those who wait.  A
waiter registers for notifications, looks whether what it waits for is there,
and only then suspends.  A notification wakes the waiters that are registered;
one that is meant for a single waiter is stored if nobody is registered.

If every publisher whose step establishes the condition goes on to notify, no
waiter stays suspended while the condition holds and nobody is about to notify.
-/

namespace TaskCage

/-- Where a caller is that waits.  Once it is registered, it is also known
whether it has been woken. -/
inductive Waiter (Value : Type) where
  | entering
  | enabled (woken : Bool)
  | suspended (woken : Bool)
  | returned (value : Value)
  | left
deriving DecidableEq

namespace Waiter

variable {Value : Type}

/-- The waiter after a notification. -/
def wake : Waiter Value → Waiter Value
  | enabled _ => enabled true
  | suspended _ => suspended true
  | entering => entering
  | returned value => returned value
  | left => left

/-- Whether a notification for a single waiter may go to this one. -/
def waiting : Waiter Value → Bool
  | enabled woken => !woken
  | suspended woken => !woken
  | entering => false
  | returned _ => false
  | left => false

/-- Whether the waiter has a notification that it may not have used. -/
def woken : Waiter Value → Bool
  | enabled woken => woken
  | suspended woken => woken
  | entering => false
  | returned _ => false
  | left => false

/-- Whether the caller is gone. -/
def ended : Waiter Value → Bool
  | returned _ => true
  | left => true
  | entering => false
  | enabled _ => false
  | suspended _ => false

end Waiter

/-- A shared state with its publishers and what waiters look for.  If
notifications are for a single waiter, there is one waiter at a time. -/
structure Channel (State Local Choice Value : Type) where
  start : State
  check : State → Option Value
  enters : Local → Bool
  act : Choice → Local → State → Option (Local × State)
  notifies : Local → Option Local
  one : Bool

namespace Channel

/-- The state, the publishers, the waiters and a notification that is stored. -/
structure Meeting (State Local Value : Type) where
  shared : State
  publishers : List Local
  waiters : List (Waiter Value)
  stored : Bool
deriving DecidableEq

/-- One step of a publisher or of a waiter.  When a waiter goes that has been
woken, the notification may be handed on. -/
inductive Event (Local Choice : Type) where
  | arrive (publisher : Local)
  | act (index : ℕ) (choice : Choice)
  | notify (index chosen : ℕ)
  | attend
  | enable (index : ℕ)
  | check (index : ℕ) (forwards : Bool)
  | resume (index : ℕ)
  | leave (index : ℕ) (forwards : Bool)
deriving DecidableEq

variable {State Local Choice Value : Type}

/-- All waiters are woken. -/
def Meeting.wakeAll (meeting : Meeting State Local Value) :
    Meeting State Local Value :=
  { meeting with waiters := meeting.waiters.map Waiter.wake }

/-- The chosen waiter is woken; without waiters the notification is stored. -/
def Meeting.wakeOne (chosen : ℕ) (meeting : Meeting State Local Value) :
    Option (Meeting State Local Value) :=
  if meeting.waiters.any Waiter.waiting then
    match meeting.waiters[chosen]? with
    | none => none
    | some waiter =>
        if waiter.waiting then
          some { meeting with waiters := meeting.waiters.set chosen waiter.wake }
        else none
  else some { meeting with stored := true }

variable (channel : Channel State Local Choice Value)

/-- One step. -/
def step (meeting : Meeting State Local Value) :
    Event Local Choice → Option (Meeting State Local Value)
  | .arrive publisher =>
      if channel.enters publisher then
        some { meeting with publishers := meeting.publishers ++ [publisher] }
      else none
  | .act index choice =>
      match meeting.publishers[index]? with
      | none => none
      | some publisher =>
          match channel.act choice publisher meeting.shared with
          | none => none
          | some (next, shared) =>
              some { meeting with
                shared := shared
                publishers := meeting.publishers.set index next }
  | .notify index chosen =>
      match meeting.publishers[index]?.bind channel.notifies with
      | none => none
      | some next =>
          let left :=
            { meeting with publishers := meeting.publishers.set index next }
          if channel.one then left.wakeOne chosen else some left.wakeAll
  | .attend =>
      if channel.one && !meeting.waiters.all Waiter.ended then none
      else some { meeting with waiters := meeting.waiters ++ [.entering] }
  | .enable index =>
      match meeting.waiters[index]? with
      | some .entering =>
          some { meeting with
            waiters := meeting.waiters.set index (.enabled meeting.stored)
            stored := false }
      | _ => none
  | .check index forwards =>
      match meeting.waiters[index]? with
      | some (.enabled woken) =>
          match channel.check meeting.shared with
          | some value =>
              some { meeting with
                waiters := meeting.waiters.set index (.returned value)
                stored := meeting.stored || (channel.one && woken && forwards) }
          | none =>
              some { meeting with
                waiters := meeting.waiters.set index (.suspended woken) }
      | _ => none
  | .resume index =>
      match meeting.waiters[index]? with
      | some (.suspended true) =>
          some { meeting with waiters := meeting.waiters.set index .entering }
      | _ => none
  | .leave index forwards =>
      match meeting.waiters[index]? with
      | some waiter =>
          if waiter.ended then none
          else
            some { meeting with
              waiters := meeting.waiters.set index .left
              stored := meeting.stored ||
                (channel.one && waiter.woken && forwards) }
      | none => none

/-- Nobody is there yet. -/
def opening : Meeting State Local Value where
  shared := channel.start
  publishers := []
  waiters := []
  stored := false

/-- What is reached by a sequence of steps. -/
def run (events : List (Event Local Choice)) :
    Option (Meeting State Local Value) :=
  History.replay channel.step channel.opening events

/-- The steps one by one. -/
inductive Step (meeting : Meeting State Local Value) :
    Event Local Choice → Meeting State Local Value → Prop where
  | arrive (publisher : Local) (enters : channel.enters publisher = true) :
      Step meeting (.arrive publisher)
        { meeting with publishers := meeting.publishers ++ [publisher] }
  | act (index : ℕ) (choice : Choice) (publisher next : Local) (shared : State)
      (found : meeting.publishers[index]? = some publisher)
      (acts : channel.act choice publisher meeting.shared =
        some (next, shared)) :
      Step meeting (.act index choice)
        { meeting with
          shared := shared
          publishers := meeting.publishers.set index next }
  | notifyAll (index chosen : ℕ) (publisher next : Local)
      (found : meeting.publishers[index]? = some publisher)
      (notifies : channel.notifies publisher = some next)
      (every : channel.one = false) :
      Step meeting (.notify index chosen)
        { meeting with
          publishers := meeting.publishers.set index next
          waiters := meeting.waiters.map Waiter.wake }
  | notifyOne (index chosen : ℕ) (publisher next : Local)
      (waiter : Waiter Value)
      (found : meeting.publishers[index]? = some publisher)
      (notifies : channel.notifies publisher = some next)
      (single : channel.one = true)
      (addressed : meeting.waiters[chosen]? = some waiter)
      (waiting : waiter.waiting = true) :
      Step meeting (.notify index chosen)
        { meeting with
          publishers := meeting.publishers.set index next
          waiters := meeting.waiters.set chosen waiter.wake }
  | notifyNobody (index chosen : ℕ) (publisher next : Local)
      (found : meeting.publishers[index]? = some publisher)
      (notifies : channel.notifies publisher = some next)
      (single : channel.one = true)
      (nobody : meeting.waiters.any Waiter.waiting = false) :
      Step meeting (.notify index chosen)
        { meeting with
          publishers := meeting.publishers.set index next
          stored := true }
  | attend (alone : channel.one = true →
        meeting.waiters.all Waiter.ended = true) :
      Step meeting .attend
        { meeting with waiters := meeting.waiters ++ [.entering] }
  | enable (index : ℕ) (found : meeting.waiters[index]? = some .entering) :
      Step meeting (.enable index)
        { meeting with
          waiters := meeting.waiters.set index (.enabled meeting.stored)
          stored := false }
  | checkHolds (index : ℕ) (forwards woken : Bool) (value : Value)
      (found : meeting.waiters[index]? = some (.enabled woken))
      (checked : channel.check meeting.shared = some value) :
      Step meeting (.check index forwards)
        { meeting with
          waiters := meeting.waiters.set index (.returned value)
          stored := meeting.stored || (channel.one && woken && forwards) }
  | checkFails (index : ℕ) (forwards woken : Bool)
      (found : meeting.waiters[index]? = some (.enabled woken))
      (checked : channel.check meeting.shared = none) :
      Step meeting (.check index forwards)
        { meeting with
          waiters := meeting.waiters.set index (.suspended woken) }
  | resume (index : ℕ)
      (found : meeting.waiters[index]? = some (.suspended true)) :
      Step meeting (.resume index)
        { meeting with waiters := meeting.waiters.set index .entering }
  | leave (index : ℕ) (forwards : Bool) (waiter : Waiter Value)
      (found : meeting.waiters[index]? = some waiter)
      (live : waiter.ended = false) :
      Step meeting (.leave index forwards)
        { meeting with
          waiters := meeting.waiters.set index .left
          stored := meeting.stored || (channel.one && waiter.woken && forwards) }

variable {channel} {meeting next : Meeting State Local Value}
variable {event : Event Local Choice}

/-- There are no other steps. -/
theorem Step.of_step (taken : channel.step meeting event = some next) :
    channel.Step meeting event next := by
  cases event with
  | arrive publisher =>
      simp only [step] at taken
      split at taken
      · rename_i enters
        cases taken
        exact .arrive publisher enters
      · cases taken
  | act index choice =>
      simp only [step] at taken
      split at taken
      · cases taken
      · rename_i publisher found
        split at taken
        · cases taken
        · rename_i after shared acts
          cases taken
          exact .act index choice publisher after shared found acts
  | notify index chosen =>
      simp only [step] at taken
      split at taken
      · cases taken
      · rename_i after notifies
        obtain ⟨publisher, found, notifies⟩ :=
          Option.bind_eq_some_iff.mp notifies
        split at taken
        · rename_i single
          unfold Meeting.wakeOne at taken
          split at taken
          · split at taken
            · cases taken
            · rename_i waiter addressed
              split at taken
              · rename_i waiting
                cases taken
                exact .notifyOne index chosen publisher after waiter found
                  notifies single addressed waiting
              · cases taken
          · rename_i nobody
            cases taken
            exact .notifyNobody index chosen publisher after found notifies
              single (Bool.eq_false_iff.mpr nobody)
        · rename_i every
          cases taken
          exact .notifyAll index chosen publisher after found notifies
            (Bool.eq_false_iff.mpr every)
  | attend =>
      simp only [step] at taken
      split at taken
      · cases taken
      · rename_i alone
        cases taken
        apply Step.attend
        intro single
        simpa [single] using alone
  | enable index =>
      simp only [step] at taken
      split at taken
      · rename_i found
        cases taken
        exact .enable index found
      · cases taken
  | check index forwards =>
      simp only [step] at taken
      split at taken
      · rename_i woken found
        split at taken
        · rename_i value checked
          cases taken
          exact .checkHolds index forwards woken value found checked
        · rename_i checked
          cases taken
          exact .checkFails index forwards woken found checked
      · cases taken
  | resume index =>
      simp only [step] at taken
      split at taken
      · rename_i found
        cases taken
        exact .resume index found
      · cases taken
  | leave index forwards =>
      simp only [step] at taken
      split at taken
      · rename_i waiter found
        split at taken
        · cases taken
        · rename_i live
          cases taken
          exact .leave index forwards waiter found (Bool.eq_false_iff.mpr live)
      · cases taken

/-! ### Notifications that are not missed -/

/-- A publisher whose step establishes the condition goes on to notify, and does
nothing before that. -/
structure Announces (channel : Channel State Local Choice Value) : Prop where
  busy : ∀ choice publisher state next after,
    channel.act choice publisher state = some (next, after) →
    channel.notifies publisher = none
  owes : ∀ choice publisher state next after,
    channel.act choice publisher state = some (next, after) →
    channel.check state = none → channel.check after ≠ none →
    (channel.notifies next).isSome = true

/-- Some publisher is about to notify. -/
def Owed (channel : Channel State Local Choice Value)
    (publishers : List Local) : Prop :=
  ∃ (index : ℕ) (publisher : Local), publishers[index]? = some publisher ∧
    (channel.notifies publisher).isSome = true

/-- At most one waiter is not gone. -/
def Alone (waiters : List (Waiter Value)) : Prop :=
  ∀ (index other : ℕ) (waiter companion : Waiter Value),
    waiters[index]? = some waiter → waiter.ended = false →
    waiters[other]? = some companion → companion.ended = false →
    index = other

/-- Who is suspended without having been woken waits for a condition that does
not hold, or for a publisher that is about to notify. -/
structure Heeded (channel : Channel State Local Choice Value)
    (meeting : Meeting State Local Value) : Prop where
  alone : channel.one = true → Alone meeting.waiters
  awaited : .suspended false ∈ meeting.waiters →
    channel.check meeting.shared ≠ none → channel.Owed meeting.publishers

section Rules

variable {publishers : List Local} {waiters : List (Waiter Value)}
variable {index : ℕ} {publisher after : Local} {waiter changed : Waiter Value}

theorem Owed.append (owed : channel.Owed publishers) (others : List Local) :
    channel.Owed (publishers ++ others) := by
  obtain ⟨place, owing, found, notifies⟩ := owed
  refine ⟨place, owing, ?_, notifies⟩
  have inside := (List.getElem?_eq_some_iff.mp found).1
  rw [List.getElem?_append_left inside, found]

/-- The step of somebody else changes nothing. -/
theorem Owed.set (owed : channel.Owed publishers)
    (found : publishers[index]? = some publisher)
    (quiet : channel.notifies publisher = none) :
    channel.Owed (publishers.set index after) := by
  obtain ⟨place, owing, isOwing, notifies⟩ := owed
  refine ⟨place, owing, ?_, notifies⟩
  rw [List.getElem?_set_ne]
  · exact isOwing
  · rintro rfl
    rw [found] at isOwing
    cases isOwing
    rw [quiet] at notifies
    cases notifies

@[simp] theorem ended_wake (waiter : Waiter Value) :
    waiter.wake.ended = waiter.ended := by
  cases waiter <;> rfl

theorem wake_ne_suspended (waiter : Waiter Value) :
    waiter.wake ≠ .suspended false := by
  cases waiter <;> simp [Waiter.wake]

theorem ended_of_waiting (waiting : waiter.waiting = true) :
    waiter.ended = false := by
  cases waiter with
  | enabled woken => rfl
  | suspended woken => rfl
  | entering => cases waiting
  | returned value => cases waiting
  | left => cases waiting

theorem Alone.map_wake (alone : Alone waiters) :
    Alone (waiters.map Waiter.wake) := by
  intro index other waiter companion found live also alive
  simp only [List.getElem?_map, Option.map_eq_some_iff] at found also
  obtain ⟨waiter, found, rfl⟩ := found
  obtain ⟨companion, also, rfl⟩ := also
  rw [ended_wake] at live alive
  exact alone index other waiter companion found live also alive

/-- A waiter that goes on was there before. -/
theorem Alone.set (alone : Alone waiters)
    (found : waiters[index]? = some waiter) (live : waiter.ended = false) :
    Alone (waiters.set index changed) := by
  have before : ∀ (place : ℕ) (other : Waiter Value),
      (waiters.set index changed)[place]? = some other → other.ended = false →
      ∃ earlier, waiters[place]? = some earlier ∧ earlier.ended = false := by
    intro place other isOther alive
    by_cases same : index = place
    · subst same
      exact ⟨waiter, found, live⟩
    · rw [List.getElem?_set_ne same] at isOther
      exact ⟨other, isOther, alive⟩
  intro first second one two isOne oneLive isTwo twoLive
  obtain ⟨earlier, wasOne, earlierLive⟩ := before first one isOne oneLive
  obtain ⟨previous, wasTwo, previousLive⟩ := before second two isTwo twoLive
  exact alone first second earlier previous wasOne earlierLive wasTwo
    previousLive

theorem Alone.attend (ended : waiters.all Waiter.ended = true) :
    Alone (waiters ++ [.entering]) := by
  have last : ∀ (place : ℕ) (other : Waiter Value),
      (waiters ++ [.entering])[place]? = some other → other.ended = false →
      place = waiters.length := by
    intro place other isOther alive
    have inside := (List.getElem?_eq_some_iff.mp isOther).1
    rw [List.length_append, List.length_singleton] at inside
    by_contra earlier
    have less : place < waiters.length := by omega
    rw [List.getElem?_append_left less] at isOther
    rw [List.all_eq_true] at ended
    rw [ended other (List.mem_of_getElem? isOther)] at alive
    cases alive
  intro first second one two isOne oneLive isTwo twoLive
  rw [last first one isOne oneLive, last second two isTwo twoLive]

/-- What is there after one waiter has changed, and is not that one, was there
before. -/
theorem mem_of_mem_set (member : waiter ∈ waiters.set index changed)
    (other : changed ≠ waiter) : waiter ∈ waiters := by
  rcases List.mem_or_eq_of_mem_set member with before | same
  · exact before
  · exact absurd same.symm other

end Rules

theorem Heeded.opening : channel.Heeded channel.opening where
  alone := by
    intro single index other waiter companion found
    cases found
  awaited := by
    intro member
    cases member

/-- Every step keeps it. -/
theorem Heeded.step (heeded : channel.Heeded meeting)
    (announces : channel.Announces) (taken : channel.Step meeting event next) :
    channel.Heeded next := by
  cases taken with
  | arrive publisher enters =>
      exact ⟨heeded.alone, fun member holds =>
        (heeded.awaited member holds).append [publisher]⟩
  | act index choice publisher after shared found acts =>
      refine ⟨heeded.alone, fun member holds => ?_⟩
      by_cases before : channel.check meeting.shared = none
      · -- This step establishes the condition, so its publisher owes.
        refine ⟨index, after, ?_,
          announces.owes choice publisher meeting.shared after shared acts
            before holds⟩
        have inside := (List.getElem?_eq_some_iff.mp found).1
        exact List.getElem?_set_self inside
      · exact (heeded.awaited member before).set found
          (announces.busy choice publisher meeting.shared after shared acts)
  | notifyAll index chosen publisher after found notifies every =>
      refine ⟨fun single => (heeded.alone single).map_wake, fun member => ?_⟩
      obtain ⟨waiter, -, same⟩ := List.mem_map.mp member
      exact absurd same (wake_ne_suspended waiter)
  | notifyOne index chosen publisher after waiter found notifies single
      addressed waiting =>
      have live := ended_of_waiting waiting
      refine ⟨fun _ => (heeded.alone single).set addressed live,
        fun member => ?_⟩
      -- The one that is woken is the only one.
      obtain ⟨place, isPlace⟩ := List.mem_iff_getElem?.mp member
      by_cases same : chosen = place
      · subst same
        have inside := (List.getElem?_eq_some_iff.mp addressed).1
        rw [List.getElem?_set_self inside, Option.some_inj] at isPlace
        exact absurd isPlace (wake_ne_suspended waiter)
      · rw [List.getElem?_set_ne same] at isPlace
        exact absurd (heeded.alone single chosen place waiter _ addressed live
          isPlace rfl) same
  | notifyNobody index chosen publisher after found notifies single nobody =>
      refine ⟨heeded.alone, fun member => ?_⟩
      rw [List.any_eq_false] at nobody
      exact absurd rfl (nobody _ member)
  | attend alone =>
      refine ⟨fun single => .attend (alone single), fun member => ?_⟩
      rcases List.mem_append.mp member with before | last
      · exact heeded.awaited before
      · cases List.mem_singleton.mp last
  | enable index found =>
      exact ⟨fun single => (heeded.alone single).set found rfl,
        fun member => heeded.awaited (mem_of_mem_set member nofun)⟩
  | checkHolds index forwards woken value found checked =>
      exact ⟨fun single => (heeded.alone single).set found rfl,
        fun member => heeded.awaited (mem_of_mem_set member nofun)⟩
  | checkFails index forwards woken found checked =>
      exact ⟨fun single => (heeded.alone single).set found rfl,
        fun _ holds => absurd checked holds⟩
  | resume index found =>
      exact ⟨fun single => (heeded.alone single).set found rfl,
        fun member => heeded.awaited (mem_of_mem_set member nofun)⟩
  | leave index forwards waiter found live =>
      exact ⟨fun single => (heeded.alone single).set found live,
        fun member => heeded.awaited (mem_of_mem_set member nofun)⟩

variable {events : List (Event Local Choice)} {value : Value}

/-- No notification is missed. -/
theorem heeded_of_run (announces : channel.Announces)
    (ran : channel.run events = some meeting) :
    channel.Heeded meeting := by
  refine History.invariant (fun _ => channel.Heeded) .opening ?_ ran
  intro history middle event next _ heeded taken
  exact heeded.step announces (.of_step taken)

/-- A publisher that is about to notify stays so until it does. -/
theorem owing_of_replay {index : ℕ} {publisher : Local}
    (announces : channel.Announces)
    (found : meeting.publishers[index]? = some publisher)
    (owing : (channel.notifies publisher).isSome = true)
    (ran : History.replay channel.step meeting events = some next) :
    next.publishers[index]? = some publisher ∨
      ∃ chosen, .notify index chosen ∈ events := by
  refine History.invariant (fun history reached =>
    reached.publishers[index]? = some publisher ∨
      ∃ chosen, .notify index chosen ∈ history) (.inl found) ?_ ran
  intro history middle event after reached holds taken
  rcases holds with still | ⟨chosen, notified⟩
  · -- Nobody else changes it, and it does nothing but notify.
    have keep : ∀ {place : ℕ} {changed : Local}, place ≠ index →
        (middle.publishers.set place changed)[index]? = some publisher := by
      intro place changed different
      rw [List.getElem?_set_ne different]
      exact still
    cases Step.of_step taken with
    | arrive other enters =>
        have inside := (List.getElem?_eq_some_iff.mp still).1
        exact .inl ((List.getElem?_append_left inside).trans still)
    | act place choice other changed shared isOther acts =>
        refine .inl (keep ?_)
        rintro rfl
        rw [still] at isOther
        cases isOther
        rw [announces.busy _ _ _ _ _ acts] at owing
        cases owing
    | notifyAll place chosen | notifyOne place chosen
    | notifyNobody place chosen =>
        by_cases same : place = index
        · subst same
          exact .inr ⟨chosen, List.mem_append_right _ List.mem_cons_self⟩
        · exact .inl (keep same)
    | attend | enable | checkHolds | checkFails | resume | leave =>
        exact .inl still
  · exact .inr ⟨chosen, List.mem_append_left _ notified⟩

/-! ### Values that were there -/

/-- What a waiter returns was in the state at some time. -/
theorem published_of_run (ran : channel.run events = some meeting)
    (returned : .returned value ∈ meeting.waiters) :
    ∃ before after earlier, events = before ++ after ∧
      channel.run before = some earlier ∧
      channel.check earlier.shared = some value := by
  refine History.invariant (fun events meeting =>
    .returned value ∈ meeting.waiters →
      ∃ before after earlier, events = before ++ after ∧
        channel.run before = some earlier ∧
        channel.check earlier.shared = some value) ?_ ?_ ran returned
  · intro member
    cases member
  · intro history middle event next reached before taken member
    -- Either it had returned before, or this is its check.
    have extend : .returned value ∈ middle.waiters →
        ∃ first second earlier, history ++ [event] = first ++ second ∧
          channel.run first = some earlier ∧
          channel.check earlier.shared = some value := by
      intro earlierMember
      obtain ⟨first, second, earlier, whole, ranFirst, checked⟩ :=
        before earlierMember
      exact ⟨first, second ++ [event], earlier,
        by rw [whole, List.append_assoc], ranFirst, checked⟩
    have woken : ∀ waiter : Waiter Value, waiter.wake = .returned value →
        waiter = .returned value := by
      intro waiter same
      cases waiter <;> simp_all [Waiter.wake]
    cases Step.of_step taken with
    | arrive publisher enters => exact extend member
    | act index choice publisher after shared found acts => exact extend member
    | notifyAll index chosen publisher after found notifies every =>
        obtain ⟨waiter, isWaiter, same⟩ := List.mem_map.mp member
        rw [woken waiter same] at isWaiter
        exact extend isWaiter
    | notifyOne index chosen publisher after waiter found notifies single
        addressed waiting =>
        rcases List.mem_or_eq_of_mem_set member with earlier | same
        · exact extend earlier
        · rw [woken waiter same.symm] at addressed
          exact extend (List.mem_of_getElem? addressed)
    | notifyNobody index chosen publisher after found notifies single nobody =>
        exact extend member
    | attend alone =>
        rcases List.mem_append.mp member with earlier | last
        · exact extend earlier
        · cases List.mem_singleton.mp last
    | enable index found => exact extend (mem_of_mem_set member nofun)
    | checkHolds index forwards woken found isFound checked =>
        rcases List.mem_or_eq_of_mem_set member with earlier | same
        · exact extend earlier
        · cases same
          exact ⟨history, _, middle, rfl, reached, checked⟩
    | checkFails | resume | leave => exact extend (mem_of_mem_set member nofun)

/-- A step of a publisher has put the value into the state. -/
def Published (channel : Channel State Local Choice Value)
    (events : List (Event Local Choice)) (value : Value) : Prop :=
  ∃ before index choice after earlier next,
    events = before ++ .act index choice :: after ∧
      channel.run before = some earlier ∧
      channel.step earlier (.act index choice) = some next ∧
      channel.check earlier.shared ≠ some value ∧
      channel.check next.shared = some value

theorem Published.append (published : channel.Published events value)
    (later : List (Event Local Choice)) :
    channel.Published (events ++ later) value := by
  obtain ⟨before, index, choice, after, earlier, next, whole, ran, taken,
    absent, present⟩ := published
  refine ⟨before, index, choice, after ++ later, earlier, next, ?_, ran, taken,
    absent, present⟩
  rw [whole, List.append_assoc, List.cons_append]

/-- A value that was not there at the beginning was published. -/
theorem published_of_check (ran : channel.run events = some meeting)
    (absent : channel.check channel.start ≠ some value)
    (present : channel.check meeting.shared = some value) :
    channel.Published events value := by
  refine History.invariant (fun events meeting =>
    channel.check meeting.shared = some value →
      channel.Published events value) ?_ ?_ ran present
  · intro holds
    exact absurd holds absent
  · intro history middle event next reached before taken holds
    by_cases earlier : channel.check middle.shared = some value
    · exact (before earlier).append [event]
    · cases Step.of_step taken with
      | act index choice publisher after shared found acts =>
          exact ⟨history, index, choice, [], middle, _, rfl, reached, taken,
            earlier, holds⟩
      | arrive | notifyAll | notifyOne | notifyNobody | attend | enable
      | checkHolds | checkFails | resume | leave => exact absurd holds earlier

/-- In no run a waiter is suspended without having been woken while what it
waits for is there and all publishers have returned, and every value that a
waiter returns was published or there at the beginning. -/
def NeverMissed (channel : Channel State Local Choice Value) : Prop :=
  ∀ events meeting, channel.run events = some meeting →
    ¬ (channel.check meeting.shared ≠ none ∧
        (∀ publisher ∈ meeting.publishers, channel.notifies publisher = none) ∧
        .suspended false ∈ meeting.waiters) ∧
      ∀ value, .returned value ∈ meeting.waiters →
        channel.check channel.start = some value ∨
          channel.Published events value

theorem Announces.neverMissed (announces : channel.Announces) :
    channel.NeverMissed := by
  intro events meeting ran
  constructor
  · rintro ⟨holds, returned, suspended⟩
    obtain ⟨index, publisher, found, owing⟩ :=
      (heeded_of_run announces ran).awaited suspended holds
    rw [returned publisher (List.mem_of_getElem? found)] at owing
    cases owing
  · intro value returned
    by_cases there : channel.check channel.start = some value
    · exact .inl there
    · obtain ⟨before, after, earlier, rfl, ranBefore, checked⟩ :=
        published_of_run ran returned
      exact .inr ((published_of_check ranBefore there checked).append after)

end Channel
end TaskCage
