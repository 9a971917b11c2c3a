import Spotuify.Reminders

/-!
# When the next occurrence is found

The scheduler steps from the previous due time until it passes the present
one.  A daily or weekly walk visits the occurrences themselves.  A monthly one
falls behind them once it has visited a month that cannot hold the anchor's
day, and the number of steps is limited.
-/

namespace Spotuify

/-- The day of a time. -/
abbrev dayOfMs (ms : Int) : Int := ms / dayMs

/-- The month of a time. -/
abbrev monthOfMs (ms : Int) : Int := Gregorian.calendar.monthOf (dayOfMs ms)

/-- A date at the time of day of an anchor. -/
def dateMs (anchorAtMs month dayIn : Int) : Int :=
  Gregorian.calendar.date month dayIn * dayMs + anchorAtMs % dayMs

/-- The day of the month of an anchor, counted from zero. -/
abbrev anchorDay (anchorAtMs : Int) : Int :=
  Gregorian.calendar.dayIn (dayOfMs anchorAtMs)

section
variable {anchorAtMs month dayIn : Int}

theorem dayOfMs_dateMs :
    dayOfMs (dateMs anchorAtMs month dayIn) =
      Gregorian.calendar.date month dayIn := by
  unfold dayOfMs dateMs dayMs
  omega

theorem dateMs_mod :
    dateMs anchorAtMs month dayIn % dayMs = anchorAtMs % dayMs := by
  unfold dateMs dayMs
  omega

theorem addMonthsMs_dateMs (nonneg : 0 ≤ dayIn) :
    addMonthsMs (dateMs anchorAtMs month dayIn) 1 =
      dateMs anchorAtMs (month + 1)
        (min dayIn (Gregorian.calendar.lastIn month)) := by
  have day : dateMs anchorAtMs month dayIn / dayMs =
      Gregorian.calendar.date month dayIn := dayOfMs_dateMs
  rw [addMonthsMs, day, dateMs_mod, MonthCalendar.addMonths_date nonneg]
  rfl

theorem addMonthsMs_eq (months : Int) :
    addMonthsMs anchorAtMs months =
      dateMs anchorAtMs (monthOfMs anchorAtMs + months)
        (anchorDay anchorAtMs) := rfl

theorem dateMs_lt_dateMs {other otherDay : Int} (before : month < other)
    (nonneg : 0 ≤ otherDay) :
    dateMs anchorAtMs month dayIn < dateMs anchorAtMs other otherDay := by
  have ordered : Gregorian.calendar.date month dayIn <
      Gregorian.calendar.date other otherDay :=
    MonthCalendar.date_lt_date before nonneg
  unfold dateMs dayMs
  omega

theorem dateMs_le_dateMs {otherDay : Int} (ordered : dayIn ≤ otherDay) :
    dateMs anchorAtMs month dayIn ≤ dateMs anchorAtMs month otherDay := by
  unfold dateMs MonthCalendar.date dayMs
  omega

end

namespace Recurrence

variable {recurrence : Recurrence} {anchorAtMs dueAtMs nowMs : Int}

theorem occurrence_zero :
    recurrence.occurrence anchorAtMs 0 = anchorAtMs := by
  cases recurrence with
  | none => rfl
  | daily => simp [occurrence]
  | weekly => simp [occurrence]
  | monthly =>
    have months : Gregorian.calendar.addMonths (anchorAtMs / dayMs) 0 =
        anchorAtMs / dayMs := MonthCalendar.addMonths_zero
    simp only [occurrence, addMonthsMs, Nat.cast_zero, months]
    unfold dayMs
    omega

theorem occurrence_lt_occurrence (recurring : recurrence.isRecurring = true)
    (anchorAtMs : Int) {first second : Nat} (before : first < second) :
    recurrence.occurrence anchorAtMs first <
      recurrence.occurrence anchorAtMs second := by
  cases recurrence with
  | none => cases recurring
  | daily =>
    simp only [occurrence, dayMs]
    omega
  | weekly =>
    simp only [occurrence, dayMs]
    omega
  | monthly =>
    apply dateMs_lt_dateMs
    · omega
    · exact MonthCalendar.dayIn_nonneg

/-- The steps that skip missed occurrences follow a walk to its first time
after the present one. -/
theorem skipMissed_eq {walk : Nat → Int} {skips index last : Nat}
    (before : index ≤ last) (enough : last ≤ index + skips)
    (steps : ∀ other, index ≤ other → other < last →
      step (walk other) recurrence = walk (other + 1))
    (early : ∀ other, index ≤ other → other < last → walk other ≤ nowMs)
    (late : nowMs < walk last) :
    recurrence.skipMissed nowMs skips (walk index) = walk last := by
  induction skips generalizing index with
  | zero =>
    have arrived : index = last := by omega
    rw [arrived]
    rfl
  | succ skips inductionHypothesis =>
    rw [skipMissed]
    by_cases arrived : index = last
    · rw [arrived, if_pos late]
    · have missed := early index (Nat.le_refl _) (by omega)
      rw [if_neg (by omega), steps index (Nat.le_refl _) (by omega)]
      apply inductionHypothesis
      · omega
      · omega
      · intro other notBefore
        exact steps other (by omega)
      · intro other notBefore
        exact early other (by omega)

/-- A walk from a due time finds its first time after the present one. -/
theorem nextOccurrence_eq {walk : Nat → Int} {last : Nat}
    (starts : walk 0 = dueAtMs) (moves : 0 < last)
    (enough : last ≤ maxSkips + 1)
    (steps : ∀ other < last, step (walk other) recurrence = walk (other + 1))
    (early : ∀ other < last, walk other ≤ nowMs)
    (late : nowMs < walk last) :
    recurrence.nextOccurrence dueAtMs nowMs = walk last := by
  rw [nextOccurrence, ← starts, steps 0 moves]
  apply skipMissed_eq
  · omega
  · omega
  · exact fun other _ => steps other
  · exact fun other _ => early other
  · exact late

/-- The walk meets nothing on its way to an occurrence that makes it miss it:
the times stay in range, and every month it passes can hold the day it goes
to. -/
def Unobstructed (recurrence : Recurrence) (anchorAtMs : Int)
    (index last : Nat) : Prop :=
  match recurrence with
  | .monthly =>
    chronoMinMs ≤ occurrence .monthly anchorAtMs index ∧
      occurrence .monthly anchorAtMs last ≤ chronoMaxMs ∧
      ∀ other, index ≤ other → other < last →
        min (anchorDay anchorAtMs)
            (Gregorian.calendar.lastIn (monthOfMs anchorAtMs + last)) ≤
          Gregorian.calendar.lastIn (monthOfMs anchorAtMs + other)
  | _ => recurrence.occurrence anchorAtMs last < 2 ^ 63

/-- The next occurrence after a time can be reached from a due one. -/
def WithinReach (recurrence : Recurrence)
    (anchorAtMs dueAtMs nowMs : Int) : Prop :=
  ∃ index last, index < last ∧ last ≤ index + (maxSkips + 1) ∧
    dueAtMs = recurrence.occurrence anchorAtMs index ∧
    recurrence.IsNextOccurrence anchorAtMs nowMs
      (recurrence.occurrence anchorAtMs last) ∧
    recurrence.Unobstructed anchorAtMs index last

/-- The occurrences before the next one are not late. -/
theorem IsNextOccurrence.early (recurring : recurrence.isRecurring = true)
    {last other : Nat}
    (isNext : recurrence.IsNextOccurrence anchorAtMs nowMs
      (recurrence.occurrence anchorAtMs last))
    (before : other < last) :
    recurrence.occurrence anchorAtMs other ≤ nowMs := by
  by_contra late
  have least := isNext.2.2 other (by omega)
  have earlier := occurrence_lt_occurrence recurring anchorAtMs before
  omega

/-- Between two occurrences the later one is next. -/
theorem isNextOccurrence_of_between
    (recurring : recurrence.isRecurring = true) {index : Nat}
    (early : recurrence.occurrence anchorAtMs index ≤ nowMs)
    (late : nowMs < recurrence.occurrence anchorAtMs (index + 1)) :
    recurrence.IsNextOccurrence anchorAtMs nowMs
      (recurrence.occurrence anchorAtMs (index + 1)) := by
  have increasing : StrictMono (recurrence.occurrence anchorAtMs) :=
    fun _ _ => occurrence_lt_occurrence recurring anchorAtMs
  refine ⟨⟨index + 1, rfl⟩, late, ?_⟩
  intro other later
  apply increasing.monotone
  exact increasing.lt_iff_lt.mp (early.trans_lt later)

/-- No occurrence lies between two of them. -/
theorem occurrence_ne_of_between
    (recurring : recurrence.isRecurring = true) {index : Nat} {ms : Int}
    (later : recurrence.occurrence anchorAtMs index < ms)
    (earlier : ms < recurrence.occurrence anchorAtMs (index + 1))
    (other : Nat) : ms ≠ recurrence.occurrence anchorAtMs other := by
  have increasing : StrictMono (recurrence.occurrence anchorAtMs) :=
    fun _ _ => occurrence_lt_occurrence recurring anchorAtMs
  rintro rfl
  have after := increasing.lt_iff_lt.mp later
  have before := increasing.lt_iff_lt.mp earlier
  omega

theorem wrapMs_of_lt {sum : Int} (inRange : sum < 2 ^ 63) :
    wrapMs sum = sum := if_pos inRange

/-- A daily or weekly step goes to the next occurrence. -/
theorem step_occurrence (fixed : recurrence = .daily ∨ recurrence = .weekly)
    {index : Nat}
    (inRange : recurrence.occurrence anchorAtMs (index + 1) < 2 ^ 63) :
    step (recurrence.occurrence anchorAtMs index) recurrence =
      recurrence.occurrence anchorAtMs (index + 1) := by
  rcases fixed with rfl | rfl
  · have next : occurrence .daily anchorAtMs index + dayMs =
        occurrence .daily anchorAtMs (index + 1) := by
      simp only [occurrence, dayMs]
      omega
    rw [step, next, wrapMs_of_lt inRange]
  · have next : occurrence .weekly anchorAtMs index + 7 * dayMs =
        occurrence .weekly anchorAtMs (index + 1) := by
      simp only [occurrence, dayMs]
      omega
    rw [step, next, wrapMs_of_lt inRange]

theorem nextOccurrence_fixed
    (fixed : recurrence = .daily ∨ recurrence = .weekly) {index last : Nat}
    (before : index < last) (enough : last ≤ index + (maxSkips + 1))
    (isNext : recurrence.IsNextOccurrence anchorAtMs nowMs
      (recurrence.occurrence anchorAtMs last))
    (inRange : recurrence.occurrence anchorAtMs last < 2 ^ 63) :
    recurrence.nextOccurrence (recurrence.occurrence anchorAtMs index) nowMs =
      recurrence.occurrence anchorAtMs last := by
  have recurring : recurrence.isRecurring = true := by
    rcases fixed with rfl | rfl <;> rfl
  have increasing : StrictMono (recurrence.occurrence anchorAtMs) :=
    fun _ _ => occurrence_lt_occurrence recurring anchorAtMs
  obtain ⟨passed, rfl⟩ := Nat.exists_eq_add_of_lt before
  have found := @nextOccurrence_eq recurrence
    (recurrence.occurrence anchorAtMs index) nowMs
    (fun other => recurrence.occurrence anchorAtMs (index + other))
    (passed + 1) rfl (by omega) (by omega) ?_ ?_ ?_
  · exact found
  · intro other inWalk
    apply step_occurrence fixed
    have ordered := increasing.monotone
      (show index + other + 1 ≤ index + passed + 1 by omega)
    omega
  · intro other inWalk
    exact isNext.early recurring (by omega)
  · exact isNext.2.1

/-- A monthly step from a date in range. -/
theorem step_dateMs {month dayIn : Int} (nonneg : 0 ≤ dayIn)
    (lower : chronoMinMs ≤ dateMs anchorAtMs month dayIn)
    (upper : dateMs anchorAtMs (month + 1)
      (min dayIn (Gregorian.calendar.lastIn month)) ≤ chronoMaxMs) :
    step (dateMs anchorAtMs month dayIn) .monthly =
      dateMs anchorAtMs (month + 1)
        (min dayIn (Gregorian.calendar.lastIn month)) := by
  have later : dateMs anchorAtMs month dayIn <
      dateMs anchorAtMs (month + 1)
        (min dayIn (Gregorian.calendar.lastIn month)) :=
    dateMs_lt_dateMs (by omega) (le_min nonneg MonthCalendar.lastIn_nonneg)
  have inRange : ChronoHolds (dateMs anchorAtMs month dayIn) ∧
      ChronoHolds (dateMs anchorAtMs (month + 1)
        (min dayIn (Gregorian.calendar.lastIn month))) := by
    unfold ChronoHolds
    omega
  rw [step, checkedAddMonth, addMonthsMs_dateMs nonneg, if_pos inRange]
  rfl

theorem nextOccurrence_monthly {index last : Nat} (before : index < last)
    (enough : last ≤ index + (maxSkips + 1))
    (isNext : IsNextOccurrence .monthly anchorAtMs nowMs
      (occurrence .monthly anchorAtMs last))
    (clear : Unobstructed .monthly anchorAtMs index last) :
    nextOccurrence .monthly (occurrence .monthly anchorAtMs index) nowMs =
      occurrence .monthly anchorAtMs last := by
  obtain ⟨lower, upper, holdsDay⟩ := clear
  obtain ⟨passed, rfl⟩ := Nat.exists_eq_add_of_lt before
  have increasing : StrictMono (occurrence .monthly anchorAtMs) :=
    fun _ _ => occurrence_lt_occurrence rfl anchorAtMs
  have nonneg : 0 ≤ anchorDay anchorAtMs := MonthCalendar.dayIn_nonneg
  -- The day the walk has kept after some months.
  let kept (other : Nat) : Int :=
    Gregorian.calendar.keptDay (monthOfMs anchorAtMs + index)
      (anchorDay anchorAtMs) other
  let walk (other : Nat) : Int :=
    dateMs anchorAtMs (monthOfMs anchorAtMs + index + other) (kept other)
  have keptNonneg : ∀ other, 0 ≤ kept other := fun other =>
    MonthCalendar.keptDay_nonneg nonneg other
  have atMost : ∀ other,
      walk other ≤ occurrence .monthly anchorAtMs (index + other) := by
    intro other
    have keptLe : kept other ≤ anchorDay anchorAtMs :=
      MonthCalendar.keptDay_le other
    have sameMonth : occurrence .monthly anchorAtMs (index + other) =
        dateMs anchorAtMs (monthOfMs anchorAtMs + index + other)
          (anchorDay anchorAtMs) := by
      rw [occurrence, addMonthsMs_eq]
      congr 1
      push_cast
      omega
    rw [sameMonth]
    exact dateMs_le_dateMs keptLe
  have starts : walk 0 = occurrence .monthly anchorAtMs index := by
    simp only [walk, kept, MonthCalendar.keptDay, occurrence, addMonthsMs_eq,
      Nat.cast_zero, Int.add_zero]
  have arrives : walk (passed + 1) =
      occurrence .monthly anchorAtMs (index + passed + 1) := by
    have months : monthOfMs anchorAtMs + ((index + passed + 1 : Nat) : Int) =
        monthOfMs anchorAtMs + index + ((passed + 1 : Nat) : Int) := by
      push_cast
      omega
    have keeps := (@MonthCalendar.date_keptDay_eq_iff Gregorian.calendar
      (monthOfMs anchorAtMs + index) (anchorDay anchorAtMs)
      (passed + 1)).mpr ?_
    · rw [occurrence, addMonthsMs_eq, months, dateMs, ← keeps]
      rfl
    · intro other inWalk
      rw [← months, Int.add_assoc, ← Nat.cast_add]
      exact holdsDay (index + other) (by omega) (by omega)
  have grows : ∀ other, walk other < walk (other + 1) := by
    intro other
    apply dateMs_lt_dateMs
    · push_cast
      omega
    · exact keptNonneg (other + 1)
  have walkMono : StrictMono walk := strictMono_nat_of_lt_succ grows
  rw [← arrives]
  apply nextOccurrence_eq starts
  · omega
  · omega
  · intro other inWalk
    have nextMonth : monthOfMs anchorAtMs + index + ((other + 1 : Nat) : Int) =
        monthOfMs anchorAtMs + index + other + 1 := by
      push_cast
      omega
    have walked := @step_dateMs anchorAtMs
      (monthOfMs anchorAtMs + index + other) (kept other) (keptNonneg other)
      ?_ ?_
    · simp only [walk, kept, nextMonth, MonthCalendar.keptDay]
      exact walked
    · have fromStart := walkMono.monotone (Nat.zero_le other)
      rw [starts] at fromStart
      exact lower.trans fromStart
    · have toEnd := walkMono.monotone
        (show other + 1 ≤ passed + 1 by omega)
      rw [arrives] at toEnd
      simp only [walk, kept, nextMonth, MonthCalendar.keptDay] at toEnd
      exact toEnd.trans upper
  · intro other inWalk
    exact (atMost other).trans (isNext.early rfl (by omega))
  · rw [arrives]
    exact isNext.2.1

/-- What is within reach is found. -/
theorem WithinReach.isNextOccurrence
    (recurring : recurrence.isRecurring = true)
    (reach : recurrence.WithinReach anchorAtMs dueAtMs nowMs) :
    recurrence.IsNextOccurrence anchorAtMs nowMs
      (recurrence.nextOccurrence dueAtMs nowMs) := by
  obtain ⟨index, last, before, enough, rfl, isNext, clear⟩ := reach
  have found : recurrence.nextOccurrence
      (recurrence.occurrence anchorAtMs index) nowMs =
        recurrence.occurrence anchorAtMs last := by
    cases recurrence with
    | none => cases recurring
    | daily => exact nextOccurrence_fixed (.inl rfl) before enough isNext clear
    | weekly => exact nextOccurrence_fixed (.inr rfl) before enough isNext clear
    | monthly => exact nextOccurrence_monthly before enough isNext clear
  rw [found]
  exact isNext

end Recurrence

end Spotuify
