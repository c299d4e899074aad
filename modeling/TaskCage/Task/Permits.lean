import TaskCage.Foundation.Channel

/-!
# Permits among threads

The counter of the slots is changed by atomic operations only.  A thread takes a
slot with a loop of compare-and-exchange that may fail without reason, and gives
it back when its permit is dropped; a permit that is retained for a fail-stop is
never given back.  Whoever brings the counter to zero notifies those who wait
for that.
-/

namespace TaskCage
namespace Task

/-- The atomic counters of the slots. -/
structure SlotCounters where
  inUse : UInt32
  retainedForFailStop : UInt32
deriving DecidableEq

/-- Where a thread is with its permit.  `comparing` is the loop with the value
that was read last; `marking` is a retained permit before its flag is
cleared. -/
inductive PermitPoint where
  | acquiring
  | comparing (current : UInt32)
  | refused
  | holding
  | marking
  | dropping (releaseOnDrop : Bool)
  | notifying
  | released
  | retained
deriving DecidableEq

/-- How a thread goes on: with the next operation, with one that fails without
reason, or with what is done with the permit. -/
inductive PermitMove where
  | proceed
  | spurious
  | drop
  | retain
deriving DecidableEq

namespace PermitPoint

/-- The permit will be given back. -/
def releasable : PermitPoint → Bool
  | holding => true
  | dropping releaseOnDrop => releaseOnDrop
  | _ => false

/-- The permit has been retained. -/
def kept : PermitPoint → Bool
  | marking => true
  | dropping releaseOnDrop => !releaseOnDrop
  | retained => true
  | _ => false

/-- The thread is in `try_acquire`. -/
def inCall : PermitPoint → Bool
  | acquiring => true
  | comparing _ => true
  | _ => false

/-- One operation of a thread. -/
def act (maximum : UInt32) (move : PermitMove) (point : PermitPoint)
    (counters : SlotCounters) : Option (PermitPoint × SlotCounters) :=
  match move, point with
  | .proceed, .acquiring => some (.comparing counters.inUse, counters)
  | .proceed, .comparing current =>
      if maximum ≤ current then some (.refused, counters)
      else if counters.inUse = current then
        some (.holding, { counters with inUse := current + 1 })
      else some (.comparing counters.inUse, counters)
  | .spurious, .comparing current =>
      if maximum ≤ current then none
      else some (.comparing counters.inUse, counters)
  | .drop, .holding => some (.dropping true, counters)
  | .retain, .holding =>
      some (.marking,
        { counters with
          retainedForFailStop := counters.retainedForFailStop + 1 })
  | .proceed, .marking => some (.dropping false, counters)
  | .proceed, .dropping true =>
      some (if counters.inUse = 1 then .notifying else .released,
        { counters with inUse := counters.inUse - 1 })
  | .proceed, .dropping false => some (.retained, counters)
  | _, _ => none

/-- The thread that is about to notify, after it did. -/
def notifies : PermitPoint → Option PermitPoint
  | notifying => some released
  | _ => none

end PermitPoint

/-- The slots, with those who wait until none is in use. -/
def capacityChannel (maximum : UInt32) :
    Channel SlotCounters PermitPoint PermitMove Unit where
  start := ⟨0, 0⟩
  check counters := if counters.inUse = 0 then some () else none
  enters point := point = .acquiring
  act := PermitPoint.act maximum
  notifies := PermitPoint.notifies
  one := false

/-! ### One operation -/

/-- The operations one by one. -/
inductive PermitStep (maximum : UInt32) (counters : SlotCounters) :
    PermitPoint → PermitPoint → SlotCounters → Prop where
  | load : PermitStep maximum counters .acquiring (.comparing counters.inUse)
      counters
  | refuse (current : UInt32) (full : maximum ≤ current) :
      PermitStep maximum counters (.comparing current) .refused counters
  | acquire (free : counters.inUse < maximum) :
      PermitStep maximum counters (.comparing counters.inUse) .holding
        { counters with inUse := counters.inUse + 1 }
  | retry (current : UInt32) :
      PermitStep maximum counters (.comparing current)
        (.comparing counters.inUse) counters
  | drop : PermitStep maximum counters .holding (.dropping true) counters
  | retain : PermitStep maximum counters .holding .marking
      { counters with
        retainedForFailStop := counters.retainedForFailStop + 1 }
  | clear : PermitStep maximum counters .marking (.dropping false) counters
  | releaseLast (last : counters.inUse = 1) :
      PermitStep maximum counters (.dropping true) .notifying
        { counters with inUse := counters.inUse - 1 }
  | release (more : counters.inUse ≠ 1) :
      PermitStep maximum counters (.dropping true) .released
        { counters with inUse := counters.inUse - 1 }
  | forget : PermitStep maximum counters (.dropping false) .retained counters

section Step

variable {maximum : UInt32} {move : PermitMove} {point next : PermitPoint}
variable {counters after : SlotCounters} {current value : UInt32}

theorem permitStep_of_compare
    (acts : PermitPoint.act maximum .proceed (.comparing current) counters =
      some (next, after)) :
    PermitStep maximum counters (.comparing current) next after := by
  change
    (if maximum ≤ current then some (PermitPoint.refused, counters)
      else if counters.inUse = current then
        some (.holding, { counters with inUse := current + 1 })
      else some (.comparing counters.inUse, counters)) = _ at acts
  by_cases full : maximum ≤ current
  · rw [if_pos full] at acts
    cases acts
    exact .refuse current full
  · rw [if_neg full] at acts
    by_cases same : counters.inUse = current
    · rw [if_pos same] at acts
      subst same
      cases acts
      exact .acquire (UInt32.not_le.mp full)
    · rw [if_neg same] at acts
      cases acts
      exact .retry current

theorem permitStep_of_drop
    (acts : PermitPoint.act maximum .proceed (.dropping true) counters =
      some (next, after)) :
    PermitStep maximum counters (.dropping true) next after := by
  cases acts
  by_cases last : counters.inUse = 1
  · rw [if_pos last]
    exact .releaseLast last
  · rw [if_neg last]
    exact .release last

theorem permitStep_of_spurious
    (acts : PermitPoint.act maximum .spurious (.comparing current) counters =
      some (next, after)) :
    PermitStep maximum counters (.comparing current) next after := by
  change
    (if maximum ≤ current then none
      else some (PermitPoint.comparing counters.inUse, counters)) = _ at acts
  by_cases full : maximum ≤ current
  · rw [if_pos full] at acts
    cases acts
  · rw [if_neg full] at acts
    cases acts
    exact .retry current

theorem permitStep_of_act
    (acts : PermitPoint.act maximum move point counters = some (next, after)) :
    PermitStep maximum counters point next after := by
  cases move with
  | proceed =>
      cases point with
      | acquiring =>
          cases acts
          exact .load
      | comparing current => exact permitStep_of_compare acts
      | marking =>
          cases acts
          exact .clear
      | dropping releaseOnDrop =>
          cases releaseOnDrop with
          | true => exact permitStep_of_drop acts
          | false =>
              cases acts
              exact .forget
      | _ => cases acts
  | spurious =>
      cases point with
      | comparing current => exact permitStep_of_spurious acts
      | _ => cases acts
  | drop =>
      cases point with
      | holding =>
          cases acts
          exact .drop
      | _ => cases acts
  | retain =>
      cases point with
      | holding =>
          cases acts
          exact .retain
      | _ => cases acts

theorem toNat_add_one (free : value < maximum) :
    (value + 1).toNat = value.toNat + 1 := by
  have less := UInt32.lt_iff_toNat_lt.mp free
  have bound := maximum.toNat_lt
  rw [UInt32.toNat_add, UInt32.toNat_one, Nat.mod_eq_of_lt]
  omega

theorem toNat_sub_one (positive : 0 < value.toNat) :
    (value - 1).toNat = value.toNat - 1 := by
  apply UInt32.toNat_sub_of_le
  rw [UInt32.le_iff_toNat_le, UInt32.toNat_one]
  exact positive

theorem announces_capacityChannel (maximum : UInt32) :
    (capacityChannel maximum).Announces where
  busy move point counters next after acts := by
    have step := permitStep_of_act acts
    cases step <;> rfl
  owes move point counters next after acts before holds := by
    have used : counters.inUse ≠ 0 := by
      intro zero
      simp [capacityChannel, zero] at before
    have empty : after.inUse = 0 := by
      by_contra other
      simp [capacityChannel, other] at holds
    have step := permitStep_of_act acts
    cases step with
    | load => exact absurd empty used
    | refuse current full => exact absurd empty used
    | acquire free =>
        have more := congrArg UInt32.toNat empty
        rw [toNat_add_one free] at more
        cases more
    | retry | drop | retain | clear => exact absurd empty used
    | releaseLast last => rfl
    | release more =>
        have positive : 0 < counters.inUse.toNat := by
          apply Nat.pos_of_ne_zero
          intro zero
          exact used (UInt32.toNat_inj.mp zero)
        have nothing := congrArg UInt32.toNat empty
        rw [toNat_sub_one positive, UInt32.toNat_zero] at nothing
        apply absurd _ more
        apply UInt32.toNat_inj.mp
        rw [UInt32.toNat_one]
        omega
    | forget => exact absurd empty used

end Step

/-! ### Accounts -/

/-- What is counted changes by what one thread counts for. -/
theorem countP_set_add {Item : Type} {items : List Item} {index : ℕ}
    {old : Item} (counts : Item → Bool) (new : Item)
    (found : items[index]? = some old) :
    (items.set index new).countP counts + (if counts old then 1 else 0) =
      items.countP counts + (if counts new then 1 else 0) := by
  induction items generalizing index with
  | nil => cases found
  | cons first rest inductionHypothesis =>
      cases index with
      | zero =>
          cases found
          rw [List.set_cons_zero, List.countP_cons, List.countP_cons]
          omega
      | succ index =>
          rw [List.set_cons_succ, List.countP_cons, List.countP_cons]
          have later := inductionHypothesis found
          omega

/-- A meeting of threads at the slots. -/
abbrev SlotMeeting : Type :=
  Channel.Meeting SlotCounters PermitPoint Unit

/-- An operation at the slots. -/
abbrev SlotEvent : Type :=
  Channel.Event PermitPoint PermitMove

/-- Every slot in use has its permit, and no more are in use than there are. -/
structure Balanced (maximum : UInt32) (meeting : SlotMeeting) : Prop where
  inUse : meeting.shared.inUse.toNat =
    meeting.publishers.countP PermitPoint.releasable +
      meeting.publishers.countP PermitPoint.kept
  retained : meeting.shared.retainedForFailStop.toNat =
    meeting.publishers.countP PermitPoint.kept
  within : meeting.shared.inUse ≤ maximum

section Accounts

variable {maximum : UInt32} {meeting next : SlotMeeting} {event : SlotEvent}
variable {events : List SlotEvent} {index : ℕ} {point changed : PermitPoint}

/-- A permit that is being given back is in use. -/
theorem Balanced.positive (balanced : Balanced maximum meeting)
    (found : meeting.publishers[index]? = some point)
    (releasable : point.releasable = true) :
    0 < meeting.shared.inUse.toNat := by
  have counted := List.countP_pos_iff.mpr
    ⟨point, List.mem_of_getElem? found, releasable⟩
  have balance := balanced.inUse
  omega

/-- A retained permit fits into the counter. -/
theorem Balanced.retained_lt (balanced : Balanced maximum meeting)
    (found : meeting.publishers[index]? = some .holding) :
    meeting.shared.retainedForFailStop < maximum := by
  have counted : 0 < meeting.publishers.countP PermitPoint.releasable :=
    List.countP_pos_iff.mpr ⟨.holding, List.mem_of_getElem? found, rfl⟩
  have balance := balanced.inUse
  have kept := balanced.retained
  have within := UInt32.le_iff_toNat_le.mp balanced.within
  rw [UInt32.lt_iff_toNat_lt]
  omega

/-- The slot that a thread accounts for, as a number. -/
def slots (point : PermitPoint) : ℕ :=
  (if point.releasable then 1 else 0) + (if point.kept then 1 else 0)

variable {after counters : SlotCounters} {value : UInt32}

/-- The counter changes by what the thread accounts for. -/
theorem PermitStep.inUse
    (step : PermitStep maximum counters point changed after)
    (positive : point.releasable = true → 0 < counters.inUse.toNat)
    (within : counters.inUse ≤ maximum) :
    after.inUse.toNat + slots point = counters.inUse.toNat + slots changed ∧
      after.inUse ≤ maximum := by
  have bound := UInt32.le_iff_toNat_le.mp within
  cases step with
  | load | refuse | retry | drop | retain | clear | forget =>
      exact ⟨rfl, within⟩
  | acquire free =>
      have less := UInt32.lt_iff_toNat_lt.mp free
      refine ⟨?_, UInt32.le_iff_toNat_le.mpr ?_⟩
      · exact toNat_add_one free
      · rw [toNat_add_one free]
        exact less
  | releaseLast last =>
      have one := positive rfl
      refine ⟨?_, UInt32.le_iff_toNat_le.mpr ?_⟩
      · change (counters.inUse - 1).toNat + 1 = counters.inUse.toNat
        rw [toNat_sub_one one]
        omega
      · rw [toNat_sub_one one]
        omega
  | release more =>
      have one := positive rfl
      refine ⟨?_, UInt32.le_iff_toNat_le.mpr ?_⟩
      · change (counters.inUse - 1).toNat + 1 = counters.inUse.toNat
        rw [toNat_sub_one one]
        omega
      · rw [toNat_sub_one one]
        omega

/-- The counter of the retained permits changes by what the thread retains. -/
theorem PermitStep.retained
    (step : PermitStep maximum counters point changed after)
    (fits : point = .holding → counters.retainedForFailStop < maximum) :
    after.retainedForFailStop.toNat + (if point.kept then 1 else 0) =
      counters.retainedForFailStop.toNat + if changed.kept then 1 else 0 := by
  cases step with
  | load => rfl
  | refuse current full => rfl
  | acquire free => rfl
  | retry current => rfl
  | drop => rfl
  | retain => exact toNat_add_one (fits rfl)
  | clear => rfl
  | releaseLast last => rfl
  | release more => rfl
  | forget => rfl

/-- Every operation of a thread keeps the accounts. -/
theorem Balanced.act (balanced : Balanced maximum meeting)
    (found : meeting.publishers[index]? = some point)
    (step : PermitStep maximum meeting.shared point changed after) :
    Balanced maximum
      { meeting with
        shared := after
        publishers := meeting.publishers.set index changed } := by
  have fits : point = .holding →
      meeting.shared.retainedForFailStop < maximum := by
    rintro rfl
    exact balanced.retained_lt found
  obtain ⟨used, within⟩ := step.inUse (balanced.positive found) balanced.within
  have marked := step.retained fits
  have releasable := countP_set_add PermitPoint.releasable changed found
  have kept := countP_set_add PermitPoint.kept changed found
  have balance := balanced.inUse
  have retained := balanced.retained
  unfold slots at used
  refine ⟨?_, ?_, within⟩
  · dsimp only
    omega
  · dsimp only
    omega

theorem notifying_of_notifies (notifies : point.notifies = some changed) :
    point = .notifying ∧ changed = .released := by
  cases point with
  | notifying =>
      cases notifies
      exact ⟨rfl, rfl⟩
  | acquiring | comparing | refused | holding | marking | dropping | released
  | retained => cases notifies

/-- Nothing but the operations of threads changes the accounts. -/
theorem Balanced.step (balanced : Balanced maximum meeting)
    (taken : (capacityChannel maximum).Step meeting event next) :
    Balanced maximum next := by
  cases taken with
  | act index choice point changed shared found acts =>
      exact balanced.act found (permitStep_of_act acts)
  | arrive point enters =>
      have entering : point = .acquiring := by
        simpa [capacityChannel] using enters
      subst entering
      refine ⟨?_, ?_, balanced.within⟩
      · rw [List.countP_append, List.countP_append]
        exact balanced.inUse
      · rw [List.countP_append]
        exact balanced.retained
  | notifyAll index chosen point changed found notifies every =>
      obtain ⟨rfl, rfl⟩ := notifying_of_notifies notifies
      have releasable := countP_set_add PermitPoint.releasable .released found
      have kept := countP_set_add PermitPoint.kept .released found
      refine ⟨?_, ?_, balanced.within⟩
      · exact balanced.inUse.trans (congrArg₂ _ releasable.symm kept.symm)
      · exact balanced.retained.trans kept.symm
  | notifyOne index chosen point changed waiter found notifies single
      addressed waiting => cases single
  | notifyNobody index chosen point changed found notifies single nobody =>
      cases single
  | attend | enable | checkHolds | checkFails | resume | leave =>
      exact ⟨balanced.inUse, balanced.retained, balanced.within⟩

theorem balanced_of_run
    (ran : (capacityChannel maximum).run events = some meeting) :
    Balanced maximum meeting := by
  refine History.invariant (fun _ => Balanced maximum) ?_ ?_ ran
  · exact ⟨rfl, rfl, UInt32.le_iff_toNat_le.mpr (Nat.zero_le _)⟩
  · intro history middle event next _ balanced taken
    exact balanced.step (.of_step taken)

/-! ### Refusals -/

/-- The thread was in `try_acquire` when the counter had the value. -/
def SawDuringCall (maximum : UInt32) (events : List SlotEvent) (index : ℕ)
    (value : UInt32) : Prop :=
  ∃ before after earlier point, events = before ++ after ∧
    (capacityChannel maximum).run before = some earlier ∧
    earlier.shared.inUse = value ∧
    earlier.publishers[index]? = some point ∧ point.inCall = true

theorem SawDuringCall.concat (saw : SawDuringCall maximum events index value)
    (event : SlotEvent) :
    SawDuringCall maximum (events ++ [event]) index value := by
  obtain ⟨before, after, earlier, point, whole, ran, counter, found, calling⟩ :=
    saw
  exact ⟨before, after ++ [event], earlier, point,
    by rw [whole, List.append_assoc], ran, counter, found, calling⟩

/-- What a thread compares it has read during its call, and who is refused has
read a counter that was at the maximum. -/
structure Witnessed (maximum : UInt32) (events : List SlotEvent)
    (meeting : SlotMeeting) : Prop where
  comparing : ∀ (index : ℕ) (current : UInt32),
    meeting.publishers[index]? = some (.comparing current) →
    SawDuringCall maximum events index current
  refused : ∀ index : ℕ, meeting.publishers[index]? = some .refused →
    SawDuringCall maximum events index maximum

theorem Witnessed.same (witnessed : Witnessed maximum events meeting)
    (event : SlotEvent) (publishers : next.publishers = meeting.publishers) :
    Witnessed maximum (events ++ [event]) next where
  comparing index current found :=
    (witnessed.comparing index current (publishers ▸ found)).concat event
  refused index found :=
    (witnessed.refused index (publishers ▸ found)).concat event

/-- Only the thread that has moved needs to be looked at. -/
theorem Witnessed.set (witnessed : Witnessed maximum events meeting)
    (publishers : next.publishers = meeting.publishers.set index changed)
    (comparing : ∀ current, changed = .comparing current →
      SawDuringCall maximum (events ++ [event]) index current)
    (refused : changed = .refused →
      SawDuringCall maximum (events ++ [event]) index maximum) :
    Witnessed maximum (events ++ [event]) next := by
  have moved : ∀ {place : ℕ} {point : PermitPoint},
      next.publishers[place]? = some point →
      meeting.publishers[place]? = some point ∨
        place = index ∧ point = changed := by
    intro place point found
    rw [publishers] at found
    by_cases same : index = place
    · subst same
      have inside := (List.getElem?_eq_some_iff.mp found).1
      rw [List.length_set] at inside
      rw [List.getElem?_set_self inside, Option.some_inj] at found
      exact .inr ⟨rfl, found.symm⟩
    · rw [List.getElem?_set_ne same] at found
      exact .inl found
  constructor
  · intro place current found
    rcases moved found with before | ⟨rfl, same⟩
    · exact (witnessed.comparing place current before).concat event
    · exact comparing current same.symm
  · intro place found
    rcases moved found with before | ⟨rfl, same⟩
    · exact (witnessed.refused place before).concat event
    · exact refused same.symm

/-- What was read is never above the maximum. -/
theorem SawDuringCall.le (saw : SawDuringCall maximum events index value) :
    value ≤ maximum := by
  obtain ⟨before, after, earlier, point, -, ran, rfl, -, -⟩ := saw
  exact (balanced_of_run ran).within

theorem Witnessed.step (witnessed : Witnessed maximum events meeting)
    (ran : (capacityChannel maximum).run events = some meeting)
    (taken : (capacityChannel maximum).Step meeting event next) :
    Witnessed maximum (events ++ [event]) next := by
  cases taken with
  | act index choice point changed shared found acts =>
      -- The counter as it is now, which the thread may read.
      have saw : point.inCall = true → SawDuringCall maximum
          (events ++ [.act index choice]) index meeting.shared.inUse :=
        fun calling => ⟨events, [.act index choice], meeting, point, rfl, ran,
          rfl, found, calling⟩
      apply witnessed.set rfl
      · intro current same
        subst same
        cases permitStep_of_act acts with
        | load => exact saw rfl
        | retry earlier => exact saw rfl
      · intro same
        subst same
        cases permitStep_of_act acts with
        | refuse current full =>
            have read := witnessed.comparing index current found
            have exactly : current = maximum := UInt32.le_antisymm read.le full
            subst exactly
            exact read.concat _
  | arrive point enters =>
      have entering : point = .acquiring := by
        simpa [capacityChannel] using enters
      subst entering
      have before : ∀ {place : ℕ} {point : PermitPoint},
          (meeting.publishers ++ [.acquiring])[place]? = some point →
          point ≠ .acquiring → meeting.publishers[place]? = some point := by
        intro place point found other
        rcases List.mem_append.mp (List.mem_of_getElem? found) with early | late
        · by_cases inside : place < meeting.publishers.length
          · rwa [List.getElem?_append_left inside] at found
          · rw [List.getElem?_append_right (Nat.le_of_not_lt inside)] at found
            have only := List.mem_of_getElem? found
            exact absurd (List.mem_singleton.mp only) other
        · exact absurd (List.mem_singleton.mp late) other
      constructor
      · intro place current found
        exact (witnessed.comparing place current (before found nofun)).concat _
      · intro place found
        exact (witnessed.refused place (before found nofun)).concat _
  | notifyAll index chosen point changed found notifies every =>
      obtain ⟨rfl, rfl⟩ := notifying_of_notifies notifies
      exact witnessed.set rfl nofun nofun
  | notifyOne index chosen point changed waiter found notifies single
      addressed waiting => cases single
  | notifyNobody index chosen point changed found notifies single nobody =>
      cases single
  | attend | enable | checkHolds | checkFails | resume | leave =>
      exact witnessed.same _ rfl

theorem witnessed_of_run
    (ran : (capacityChannel maximum).run events = some meeting) :
    Witnessed maximum events meeting := by
  refine History.invariant (Witnessed maximum) ⟨?_, ?_⟩ ?_ ran
  · intro index current found
    cases found
  · intro index found
    cases found
  · intro history middle event next reached witnessed taken
    exact witnessed.step reached (.of_step taken)

/-! ### Zero -/

/-- Only a thread that gives back the last slot brings the counter to zero, and
it is then about to notify. -/
theorem notifying_of_zero
    (taken : (capacityChannel maximum).Step meeting event next)
    (used : meeting.shared.inUse ≠ 0) (empty : next.shared.inUse = 0) :
    ∃ index choice, event = .act index choice ∧
      next.publishers[index]? = some .notifying := by
  cases taken with
  | act index choice point changed shared found acts =>
      have inside := (List.getElem?_eq_some_iff.mp found).1
      have holds : (capacityChannel maximum).check shared ≠ none := by
        intro absent
        exact (Option.some_ne_none ()) ((if_pos empty).symm.trans absent)
      have owing := (announces_capacityChannel maximum).owes choice point
        meeting.shared changed shared acts (if_neg used) holds
      obtain ⟨after, notifies⟩ := Option.isSome_iff_exists.mp owing
      obtain ⟨rfl, -⟩ := notifying_of_notifies notifies
      exact ⟨index, choice, rfl, List.getElem?_set_self inside⟩
  | arrive | notifyAll | notifyOne | notifyNobody | attend | enable
  | checkHolds | checkFails | resume | leave => exact absurd empty used

end Accounts

/-- In every interleaving of the operations of any number of threads: the slots
in use are the permits that will be given back and those that were retained,
never more than the maximum, and a slot is never given back at zero.  A thread
is refused only if the counter was at the maximum during its call.  Whoever
brings the counter to zero notifies, or is just about to. -/
theorem permits_accounted {maximum : UInt32} {events : List SlotEvent}
    {meeting : SlotMeeting}
    (ran : (capacityChannel maximum).run events = some meeting) :
    meeting.shared.inUse.toNat =
        meeting.publishers.countP PermitPoint.releasable +
          meeting.publishers.countP PermitPoint.kept ∧
      meeting.shared.retainedForFailStop.toNat =
        meeting.publishers.countP PermitPoint.kept ∧
      meeting.shared.inUse ≤ maximum ∧
      (.dropping true ∈ meeting.publishers → 0 < meeting.shared.inUse.toNat) ∧
      (∀ index : ℕ, meeting.publishers[index]? = some .refused →
        SawDuringCall maximum events index maximum) ∧
      ∀ before event after earlier next,
        events = before ++ event :: after →
        (capacityChannel maximum).run before = some earlier →
        (capacityChannel maximum).step earlier event = some next →
        earlier.shared.inUse ≠ 0 → next.shared.inUse = 0 →
        ∃ index choice, event = .act index choice ∧
          ((∃ chosen, .notify index chosen ∈ after) ∨
            meeting.publishers[index]? = some .notifying ∧
              ∃ later, (capacityChannel maximum).step meeting
                (.notify index 0) = some later) := by
  have balanced := balanced_of_run ran
  refine ⟨balanced.inUse, balanced.retained, balanced.within, ?_,
    (witnessed_of_run ran).refused, ?_⟩
  · intro member
    obtain ⟨index, found⟩ := List.mem_iff_getElem?.mp member
    exact balanced.positive found rfl
  · rintro before event after earlier next rfl reached taken used empty
    obtain ⟨index, choice, isAct, notifying⟩ :=
      notifying_of_zero (.of_step taken) used empty
    have rest : History.replay (capacityChannel maximum).step next after =
        some meeting := by
      rw [Channel.run, History.replay_append, ← Channel.run, reached,
        Option.bind_some, History.replay, taken, Option.bind_some] at ran
      exact ran
    refine ⟨index, choice, isAct, ?_⟩
    rcases Channel.owing_of_replay (announces_capacityChannel maximum) notifying
      rfl rest with still | notified
    · refine .inr ⟨still, ?_⟩
      simp only [Channel.step, still, Option.bind_some]
      exact ⟨_, rfl⟩
    · exact .inl notified

/-- One slot: the first caller has it and gives it back, while a second is
refused. -/
theorem permits_accounted_one :
    ∃ events meeting, (capacityChannel 1).run events = some meeting ∧
      .refused ∈ meeting.publishers ∧ .notifying ∈ meeting.publishers ∧
      meeting.shared.inUse ≤ 1 := by
  let events : List SlotEvent :=
    [.arrive .acquiring, .arrive .acquiring, .act 0 .proceed, .act 1 .proceed,
      .act 0 .spurious, .act 0 .proceed, .act 1 .proceed, .act 1 .proceed,
      .act 0 .drop, .act 0 .proceed]
  let meeting : SlotMeeting := ⟨⟨0, 0⟩, [.notifying, .refused], [], false⟩
  have ran : (capacityChannel 1).run events = some meeting := by decide
  exact ⟨events, meeting, ran, by decide, by decide,
    (permits_accounted ran).2.2.1⟩

end Task
end TaskCage
