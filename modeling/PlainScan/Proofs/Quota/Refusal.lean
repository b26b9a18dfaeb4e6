import PlainScan.Proofs.Quota.Calls

namespace PlainScan

/-!
# What a refusal tells

A client that is refused is told when its day ends.

* `Quota.Spent` — the day of a client is used up: the one it was told of, and none after that.
* `Quota.Sound.spent_after` — it stays used up until it ends, whatever is asked in between.
* `Quota.refusal_holds` — until then the client is refused, and after that it is allowed.
* `Quota.not_refused_on_lastDay` — on the last day there is neither, as no midnight follows.
-/

open QuotaCall (Timeline)

namespace Quota

variable {q : Quota} {client : String} {call : QuotaCall} {calls : List QuotaCall}
  {usage : Usage} {now later : Instant}

/-! ### Days that are used up -/

/-- At an instant the day of a client is used up: until it ends it is the open one, and none is open
    after that. -/
structure Spent (q : Quota) (client : String) (usage : Usage) (now : Instant) : Prop where
  full : q.limit ≤ usage.count
  openUsage?_eq : q.openUsage? client now = (some usage).filter fun usage => usage.isOpenAt now

/-- A day that is used up is so later. -/
theorem Spent.of_le (h : q.Spent client usage now)
    (hle : now.universalTime ≤ later.universalTime) : q.Spent client usage later where
  full := h.full
  openUsage?_eq := by
    rw [openUsage?_of_le hle, h.openUsage?_eq, Usage.filter_isOpenAt_of_le hle]

/-- If a check is refused although there is a limit to speak of, the open day is used up. -/
theorem Sound.spent_of_refused (hq : q.Sound) (hlimit : 1 ≤ q.limit) (hnow : now.IsReading)
    {state : QuotaState} (h : (q.check client now).2 = .ok ⟨false, state⟩) :
    ∃ usage, state = q.stateOf usage ∧ (q.check client now).1.Spent client usage now := by
  cases hmidnight : now.nextMidnight? with
  | none => simp [hq.check_of_lastDay hnow.aware hmidnight] at h
  | some midnight =>
    by_cases hfull : q.limit ≤ (q.dayOf client now midnight).count
    · rw [hq.check_of_full hnow.aware hmidnight hfull] at h ⊢
      refine ⟨q.dayOf client now midnight, by simpa using h.symm, hfull, ?_⟩
      rw [openUsage?_prune hq (Int.le_refl _)]
      -- a fresh day is not used up
      cases hopen : q.openUsage? client now with
      | none =>
        simp only [dayOf, hopen, Option.getD_none] at hfull
        omega
      | some usage =>
        have husage := (Option.filter_eq_some_iff.mp hopen).2
        rw [dayOf, hopen, Option.getD_some, Option.filter_some, if_pos husage]
    · rw [Int.not_le] at hfull
      simp [hq.check_of_room hnow.aware hmidnight hfull] at h

/-- While the day lasts, a check is refused and told the same. -/
theorem Sound.check_of_spent_open (hq : q.Sound) (hnow : now.IsReading)
    (hspent : q.Spent client usage now) (hopen : usage.isOpenAt now = true) {midnight : Instant}
    (hmidnight : now.nextMidnight? = some midnight) :
    q.check client now = (q.prune now, .ok ⟨false, q.stateOf usage⟩) := by
  have hday : q.dayOf client now midnight = usage := by
    rw [dayOf, hspent.openUsage?_eq, Option.filter_some, if_pos hopen, Option.getD_some]
  rw [hq.check_of_full hnow.aware hmidnight (by rw [hday]; exact hspent.full), hday]

/-- When the day is over, a check is allowed and is the first of a day. -/
theorem Sound.check_of_spent_over (hq : q.Sound) (hlimit : 1 ≤ q.limit) (hnow : now.IsReading)
    (hspent : q.Spent client usage now) (hover : ¬ usage.isOpenAt now = true) {midnight : Instant}
    (hmidnight : now.nextMidnight? = some midnight) :
    (q.check client now).2 = .ok ⟨true, q.stateOf ⟨midnight, 1⟩⟩ := by
  have hday : q.dayOf client now midnight = ⟨midnight, 0⟩ := by
    rw [dayOf, hspent.openUsage?_eq, Option.filter_some, if_neg hover, Option.getD_none]
  rw [hq.check_of_room hnow.aware hmidnight (by rw [hday]; exact hlimit), hday]
  rfl

/-- A call leaves a day used up, unless it is a check of the client on a later day. -/
theorem Sound.spent_ask (hq : q.Sound) (hcall : call.now.IsReading)
    (hspent : q.Spent client usage call.now)
    (hcheck : call.isCheckOf client = true → call.now.day < CalendarDate.lastDay →
      usage.isOpenAt call.now = true) :
    (q.ask call).1.Spent client usage call.now := by
  have hlimit := (hq.ask hcall).2
  by_cases hown : call.isCheckOf client = true
  · refine ⟨hlimit ▸ hspent.full, ?_⟩
    -- such a check is refused or fails, and only forgets what is over
    have hforget : (q.ask call).1 = q.prune call.now := by
      rw [q.ask_of_isCheckOf hown]
      cases hmidnight : call.now.nextMidnight? with
      | none => rw [hq.check_of_lastDay hcall.aware hmidnight]
      | some midnight =>
        have hday := (Instant.nextMidnight?_eq_some_iff.mp hmidnight).1
        rw [hq.check_of_spent_open hcall hspent (hcheck hown hday) hmidnight]
    rw [hforget, openUsage?_prune hq (Int.le_refl _), hspent.openUsage?_eq]
  · refine ⟨hlimit ▸ hspent.full, ?_⟩
    rw [hq.openUsage?_ask_of_not_check hcall hown (Int.le_refl _), hspent.openUsage?_eq]

/-- **Until the day ends.** A day that is used up is so after any calls, unless one of them is a
    check of the client on a later day. -/
theorem Sound.spent_after (hq : q.Sound) (h : Timeline calls)
    (hspent : q.Spent client usage now)
    (hstart : ∀ call ∈ calls, now.universalTime ≤ call.now.universalTime)
    (hend : ∀ call ∈ calls, call.now.universalTime ≤ later.universalTime)
    (hlater : now.universalTime ≤ later.universalTime)
    (hcheck : ∀ call ∈ calls, call.isCheckOf client = true →
      call.now.day < CalendarDate.lastDay → usage.isOpenAt call.now = true) :
    (q.after calls).Spent client usage later := by
  -- each call finds the day used up at its own instant and leaves it so
  induction calls generalizing q now with
  | nil => exact hspent.of_le hlater
  | cons call rest ih =>
    obtain ⟨hcall, hfirst, hrest⟩ := QuotaCall.Timeline.cons_iff.mp h
    obtain ⟨hcheckCall, hcheckRest⟩ := List.forall_mem_cons.mp hcheck
    obtain ⟨hendCall, hendRest⟩ := List.forall_mem_cons.mp hend
    have hstep := hq.spent_ask hcall (hspent.of_le (hstart call List.mem_cons_self)) hcheckCall
    exact ih (hq.ask hcall).1 hrest hstep hfirst hendRest hendCall hcheckRest

/-- What a client whose day is used up is told when it checks after other calls. -/
theorem Sound.check_after_spent (hq : q.Sound) (hlimit : 1 ≤ q.limit)
    (h : Timeline (calls ++ [.check client later])) (hspent : q.Spent client usage now)
    (hstart : ∀ call ∈ calls, now.universalTime ≤ call.now.universalTime)
    (hle : now.universalTime ≤ later.universalTime)
    (hcheck : ∀ call ∈ calls, call.isCheckOf client = true →
      call.now.day < CalendarDate.lastDay → usage.isOpenAt call.now = true)
    (hday : later.day < CalendarDate.lastDay) :
    ((q.after calls).check client later).2
      = if usage.isOpenAt later then .ok ⟨false, q.stateOf usage⟩
        else .ok ⟨true, q.stateOf ⟨⟨later.day + 1, 0, later.offset⟩, 1⟩⟩ := by
  obtain ⟨hcalls, hlater, hend⟩ := QuotaCall.Timeline.append_singleton_iff.mp h
  rw [QuotaCall.now_check] at hlater
  have hspent' : (q.after calls).Spent client usage later :=
    hq.spent_after hcalls hspent hstart hend hle hcheck
  obtain ⟨hsound, hlimit'⟩ := hq.after hcalls
  have hmidnight : later.nextMidnight? = some ⟨later.day + 1, 0, later.offset⟩ :=
    Instant.nextMidnight?_eq_some_iff.mpr ⟨hday, rfl⟩
  rw [← stateOf_congr hlimit']
  by_cases hopen : usage.isOpenAt later = true
  · rw [if_pos hopen, hsound.check_of_spent_open hlater hspent' hopen hmidnight]
  · rw [if_neg hopen]
    rw [← hlimit'] at hlimit
    exact hsound.check_of_spent_over hlimit hlater hspent' hopen hmidnight

/-- What a client is told when it checks after it was refused and other calls were made. -/
theorem Sound.check_after_refused (hq : q.Sound) (hlimit : 1 ≤ q.limit)
    (h : Timeline (.check client now :: (calls ++ [.check client later]))) {state : QuotaState}
    (hrefused : (q.check client now).2 = .ok ⟨false, state⟩)
    (hcheck : ∀ call ∈ calls, call.isCheckOf client = true →
      call.now.day < CalendarDate.lastDay →
      call.now.universalTime < state.resetAt.universalTime)
    (hday : later.day < CalendarDate.lastDay) :
    ((q.after (.check client now :: calls)).check client later).2
      = if later.universalTime < state.resetAt.universalTime then .ok ⟨false, state⟩
        else .ok ⟨true, q.stateOf ⟨⟨later.day + 1, 0, later.offset⟩, 1⟩⟩ := by
  obtain ⟨hnow, hfirst, hrest⟩ := QuotaCall.Timeline.cons_iff.mp h
  rw [QuotaCall.now_check] at hnow
  obtain ⟨hstart, hle⟩ := List.forall_mem_append.mp hfirst
  obtain ⟨usage, rfl, hspent⟩ := hq.spent_of_refused hlimit hnow hrefused
  have hlimit' : (q.check client now).1.limit = q.limit := hq.limit_check hnow client
  rw [← hlimit'] at hlimit
  have hlast := (hq.check hnow client).check_after_spent hlimit hrest hspent hstart
    (hle (.check client later) List.mem_cons_self)
    (fun call hcall hown hday => (Usage.isOpenAt_iff _ _).mpr (hcheck call hcall hown hday)) hday
  rw [stateOf_congr hlimit'] at hlast
  simp only [Usage.isOpenAt_iff] at hlast
  exact hlast

/-- **Refusals.** In a run of calls at instants with any offsets, one after another, let a client be
    refused and told when its day ends.  On the last day its later checks fail, as no midnight
    follows.  On other days they are refused with the same words until the day that it was told of
    ends, and the first one after that is allowed and is the first of a day. -/
theorem refusal_holds {limit : Int} (hlimit : 1 ≤ limit) {client : String}
    {earlier between : List QuotaCall} {first last : Instant}
    (h : Timeline (earlier ++ .check client first :: (between ++ [.check client last])))
    {state : QuotaState}
    (hrefused : (((fresh limit).after earlier).check client first).2 = .ok ⟨false, state⟩) :
    (CalendarDate.lastDay ≤ last.day →
      (((fresh limit).after (earlier ++ .check client first :: between)).check client last).2
        = .error .noNextDay)
    ∧ (last.day < CalendarDate.lastDay → last.universalTime < state.resetAt.universalTime →
      (((fresh limit).after (earlier ++ .check client first :: between)).check client last).2
        = .ok ⟨false, state⟩)
    ∧ (last.day < CalendarDate.lastDay → state.resetAt.universalTime ≤ last.universalTime →
      (∀ call ∈ between, call.isCheckOf client = true → call.now.day < CalendarDate.lastDay →
        call.now.universalTime < state.resetAt.universalTime) →
      ∃ state',
        (((fresh limit).after (earlier ++ .check client first :: between)).check client last).2
          = .ok ⟨true, state'⟩ ∧ state'.scansToday = 1) := by
  obtain ⟨hearlier, hrun, hbefore⟩ := QuotaCall.Timeline.append_iff.mp h
  obtain ⟨hsound, hlimit'⟩ := after_fresh limit hearlier
  rw [← hlimit'] at hlimit
  rw [after_append]
  refine ⟨?_, ?_, ?_⟩
  · intro hday
    -- no midnight follows, so the check fails before anything is counted
    rw [← List.cons_append, QuotaCall.Timeline.append_singleton_iff] at hrun
    obtain ⟨hcalls, hlast, -⟩ := hrun
    have haware : last.offset.isSome = true := hlast.aware
    rw [(hsound.after hcalls).1.check_of_lastDay haware
      ((Instant.nextMidnight?_eq_none_iff _).mpr hday)]
  · intro hday hlt
    -- whatever is asked in between comes before the end of the day, too
    have hcheck : ∀ call ∈ between, call.isCheckOf client = true →
        call.now.day < CalendarDate.lastDay →
        call.now.universalTime < state.resetAt.universalTime := by
      intro call hcall _ _
      obtain ⟨-, -, hrest⟩ := QuotaCall.Timeline.cons_iff.mp hrun
      have hle := (QuotaCall.Timeline.append_singleton_iff.mp hrest).2.2 call hcall
      exact Int.lt_of_le_of_lt hle hlt
    rw [hsound.check_after_refused hlimit hrun hrefused hcheck hday, if_pos hlt]
  -- the end has come, and it is the first check since
  · intro hday hle hcheck
    rw [hsound.check_after_refused hlimit hrun hrefused hcheck hday,
      if_neg (Int.not_lt.mpr hle)]
    exact ⟨_, rfl, rfl⟩

/-! ### Days that end -/

/-- A client that is refused in the east asks again just before its day ends, as another one does,
    and at the instant at which it ends; by then it reads its clock elsewhere. -/
theorem refusal_holds_atReset :
    (1 : Int) ≤ 1
      ∧ Timeline ([.check "a" ⟨100, 80000000000, some 7200000000⟩]
          ++ .check "a" ⟨100, 81000000000, some 7200000000⟩
            :: ([.check "b" ⟨100, 75000000000, some 0⟩, .check "a" ⟨100, 79199999999, some 0⟩]
              ++ [.check "a" ⟨100, 79200000000, some 0⟩]))
      ∧ (((fresh 1).after [.check "a" ⟨100, 80000000000, some 7200000000⟩]).check "a"
          ⟨100, 81000000000, some 7200000000⟩).2 = .ok ⟨false, 1, 1, ⟨101, 0, some 7200000000⟩⟩
      ∧ ∃ state',
          (((fresh 1).after ([.check "a" ⟨100, 80000000000, some 7200000000⟩]
              ++ .check "a" ⟨100, 81000000000, some 7200000000⟩
                :: [.check "b" ⟨100, 75000000000, some 0⟩,
                  .check "a" ⟨100, 79199999999, some 0⟩])).check "a"
              ⟨100, 79200000000, some 0⟩).2
            = .ok ⟨true, state'⟩ ∧ state'.scansToday = 1 := by
  have hrun : Timeline ([.check "a" ⟨100, 80000000000, some 7200000000⟩]
      ++ .check "a" ⟨100, 81000000000, some 7200000000⟩
        :: ([.check "b" ⟨100, 75000000000, some 0⟩, .check "a" ⟨100, 79199999999, some 0⟩]
          ++ [.check "a" ⟨100, 79200000000, some 0⟩])) := ⟨by decide, by decide⟩
  have hrefused : (((fresh 1).after [.check "a" ⟨100, 80000000000, some 7200000000⟩]).check "a"
      ⟨100, 81000000000, some 7200000000⟩).2 = .ok ⟨false, 1, 1, ⟨101, 0, some 7200000000⟩⟩ := by
    decide
  refine ⟨Int.le_refl 1, hrun, hrefused, ?_⟩
  exact (refusal_holds (Int.le_refl 1) hrun hrefused).2.2 (by decide) (by decide) (by decide)

/-- Refused on the last day but one, a client whose clock already shows the last day is not refused
    again before its day ends: its check fails. -/
theorem not_refused_on_lastDay :
    Timeline [.check "a" ⟨3652057, 43200000000, some (-43200000000)⟩,
        .check "a" ⟨3652057, 43200000000, some (-43200000000)⟩,
        .check "a" ⟨3652058, 3600000000, some 0⟩]
      ∧ (((fresh 1).after [.check "a" ⟨3652057, 43200000000, some (-43200000000)⟩]).check "a"
          ⟨3652057, 43200000000, some (-43200000000)⟩).2
        = .ok ⟨false, 1, 1, ⟨3652058, 0, some (-43200000000)⟩⟩
      ∧ (⟨3652058, 3600000000, some 0⟩ : Instant).universalTime
        < (⟨3652058, 0, some (-43200000000)⟩ : Instant).universalTime
      ∧ ¬ ∃ state,
          (((fresh 1).after [.check "a" ⟨3652057, 43200000000, some (-43200000000)⟩,
              .check "a" ⟨3652057, 43200000000, some (-43200000000)⟩]).check "a"
              ⟨3652058, 3600000000, some 0⟩).2 = .ok ⟨false, state⟩ := by
  refine ⟨⟨by decide, by decide⟩, by decide, by decide, ?_⟩
  rintro ⟨state, hstate⟩
  cases hstate

end Quota

end PlainScan
