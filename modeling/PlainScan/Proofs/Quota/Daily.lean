import Mathlib.Data.List.Induction
import PlainScan.Proofs.Quota.Calls
import PlainScan.Proofs.Time.Calendar

namespace PlainScan

/-!
# Days of universal time

By a clock of universal time all clients have the same days.  A client may then scan as often as
the limit says on each of them.

* `Instant.IsUtc`, `Instant.IsUniversal` — what a clock of universal time shows, on any day and
    before the last one.
* `QuotaCall.checksOn` — how often a client has checked on a day.
* `Quota.Counts` — the open days in the table say how often everybody has checked today.
* `Quota.counts_after` — they do so after any calls.
* `Quota.log_daily` — what every call is told.
-/

/-! ### Readings -/

/-- What a clock of universal time shows. -/
structure Instant.IsUtc (i : Instant) : Prop where
  offset_eq : i.offset = some 0
  timeOfDay_lt : i.timeOfDay < Instant.dayLength

instance (i : Instant) : Decidable i.IsUtc :=
  decidable_of_iff (i.offset = some 0 ∧ i.timeOfDay < Instant.dayLength)
    ⟨fun h => ⟨h.1, h.2⟩, fun h => ⟨h.1, h.2⟩⟩

/-- What a clock of universal time shows before the last day. -/
structure Instant.IsUniversal (i : Instant) : Prop where
  offset_eq : i.offset = some 0
  timeOfDay_lt : i.timeOfDay < Instant.dayLength
  day_lt : i.day < CalendarDate.lastDay

instance (i : Instant) : Decidable i.IsUniversal :=
  decidable_of_iff
    (i.offset = some 0 ∧ i.timeOfDay < Instant.dayLength ∧ i.day < CalendarDate.lastDay)
    ⟨fun h => ⟨h.1, h.2.1, h.2.2⟩, fun h => ⟨h.1, h.2, h.3⟩⟩

/-- The first instant after a day, in universal time. -/
def Instant.endOf (day : Nat) : Instant := ⟨day + 1, 0, some 0⟩

theorem Instant.IsUniversal.isUtc {i : Instant} (h : i.IsUniversal) : i.IsUtc :=
  ⟨h.offset_eq, h.timeOfDay_lt⟩

theorem Instant.IsUtc.isUniversal {i : Instant} (h : i.IsUtc)
    (hday : i.day < CalendarDate.lastDay) : i.IsUniversal :=
  ⟨h.offset_eq, h.timeOfDay_lt, hday⟩

theorem Instant.IsUtc.isReading {i : Instant} (h : i.IsUtc) : i.IsReading where
  aware := by rw [h.offset_eq, Option.isSome_some]
  timeOfDay_lt := h.timeOfDay_lt

theorem Instant.IsUniversal.isReading {i : Instant} (h : i.IsUniversal) : i.IsReading :=
  h.isUtc.isReading

theorem Instant.IsUniversal.nextMidnight?_eq {i : Instant} (h : i.IsUniversal) :
    i.nextMidnight? = some (endOf i.day) :=
  nextMidnight?_eq_some_iff.mpr ⟨h.day_lt, by rw [h.offset_eq, endOf]⟩

/-- A later instant is on the same day or on a later one. -/
theorem Instant.IsUtc.day_le {i j : Instant} (hi : i.IsUtc) (hj : j.IsUtc)
    (hle : i.universalTime ≤ j.universalTime) : i.day ≤ j.day := by
  have hearlier := hi.timeOfDay_lt
  have hlater := hj.timeOfDay_lt
  simp only [universalTime, localTime, hi.offset_eq, hj.offset_eq, Option.getD_some,
    dayLength] at *
  omega

/-- A day is open until the next one begins. -/
theorem Instant.IsUniversal.isOpenAt_endOf {i : Instant} (h : i.IsUniversal) (day count : Nat) :
    (⟨endOf day, count⟩ : Usage).isOpenAt i = decide (i.day ≤ day) := by
  have htime := h.timeOfDay_lt
  simp only [Usage.isOpenAt, endOf, universalTime, localTime, h.offset_eq, Option.getD_some,
    dayLength, decide_eq_decide] at *
  omega

/-- The end of a day is written as the date of the next one and the time of midnight. -/
theorem Instant.text_endOf (day : Nat) :
    (endOf day).text = (CalendarDate.ofDay day).next.text ++ "T00:00:00+00:00" := by
  have hclock : "T00:00:00+00:00" = "T" ++ clockText 0 ++ offsetText 0 := by decide
  rw [endOf, text, CalendarDate.ofDay_succ, CalendarDate.text, hclock]
  simp only [String.append_assoc]

/-! ### Counts -/

namespace QuotaCall

variable {client : String} {calls : List QuotaCall} {call : QuotaCall} {day : Nat}

/-- How often a client has checked on a day. -/
def checksOn (client : String) (day : Nat) (calls : List QuotaCall) : Nat :=
  calls.countP fun call => call.isCheckOf client && call.now.day == day

theorem checksOn_append_of_check (h : call.isCheckOf client = true) :
    checksOn client call.now.day (calls ++ [call]) = checksOn client call.now.day calls + 1 := by
  simp [checksOn, List.countP_append, h]

theorem checksOn_append_of_not_check (h : ¬ call.isCheckOf client = true) :
    checksOn client day (calls ++ [call]) = checksOn client day calls := by
  simp [checksOn, List.countP_append, h]

/-- Nobody has checked on a day that has not begun. -/
theorem checksOn_eq_zero (h : ∀ call ∈ calls, call.now.day < day) :
    checksOn client day calls = 0 := by
  refine List.countP_eq_zero.mpr ?_
  intro call hcall
  have hday := h call hcall
  simp [Nat.ne_of_lt hday]

/-- The answer to a call: a check is told whether it is allowed. -/
def answerWith (allowed : Bool) (state : QuotaState) : QuotaCall → QuotaAnswer
  | check _ _ => .decision (.ok ⟨allowed, state⟩)
  | peek _ _ => .standing (.ok state)

end QuotaCall

open QuotaCall (Timeline checksOn)

/-! ### Answers -/

/-- How a client stands on a day on which it has checked a number of times. -/
structure QuotaState.Tells (state : QuotaState) (limit : Int) (checks day : Nat) : Prop where
  scansToday_eq : state.scansToday = min (checks : Int) limit
  maxScansPerDay_eq : state.maxScansPerDay = limit
  remaining_eq : state.remaining = limit - state.scansToday
  canScan_iff : state.canScan = true ↔ 0 < state.remaining
  resetAt_eq : state.resetAt = Instant.endOf day
  text_resetAt : state.resetAt.text = (CalendarDate.ofDay day).next.text ++ "T00:00:00+00:00"

namespace Quota

variable {q : Quota} {client : String} {call : QuotaCall} {calls : List QuotaCall}
  {now later : Instant} {limit : Int}

/-- The entry for a number of scans on a day; there is none without scans. -/
def usageOn? (day scans : Nat) : Option Usage :=
  if scans = 0 then none else some ⟨Instant.endOf day, scans⟩

theorem filter_usageOn? (hlater : later.IsUniversal) (day scans : Nat) :
    ((usageOn? day scans).filter fun usage => usage.isOpenAt later)
      = if later.day ≤ day then usageOn? day scans else none := by
  unfold usageOn?
  split
  · simp
  · simp [Option.filter_some, hlater.isOpenAt_endOf]

/-- How a client stands after a number of checks on a day. -/
def standingOn (limit : Int) (checks day : Nat) : QuotaState :=
  ⟨min (checks : Int) limit, limit, Instant.endOf day⟩

theorem tells_standingOn (limit : Int) (checks day : Nat) :
    (standingOn limit checks day).Tells limit checks day where
  scansToday_eq := rfl
  maxScansPerDay_eq := rfl
  remaining_eq := by
    simp only [QuotaState.remaining, standingOn]
    omega
  canScan_iff := by rw [QuotaState.canScan, decide_eq_true_iff]
  resetAt_eq := rfl
  text_resetAt := Instant.text_endOf day

/-- The open days in the table say how often everybody has checked today, up to the limit. -/
def Counts (q : Quota) (calls : List QuotaCall) (now : Instant) : Prop :=
  ∀ client, q.openUsage? client now
    = usageOn? now.day (min (checksOn client now.day calls) q.limit.toNat)

/-- On whatever day a client asks, its scans on that day are known. -/
theorem Counts.dayOf_eq (h : q.Counts calls now) (client : String) :
    q.dayOf client now (Instant.endOf now.day)
      = ⟨Instant.endOf now.day, min (checksOn client now.day calls) q.limit.toNat⟩ := by
  rw [dayOf, h client, usageOn?]
  split
  · -- without an entry a fresh day is opened, on which nothing was scanned either
    rename_i hzero
    rw [hzero, Option.getD_none]
  · rw [Option.getD_some]

/-- The counts stay right as time passes. -/
theorem Counts.of_le (h : q.Counts calls now) (hnow : now.IsUniversal)
    (hlater : later.IsUniversal) (hle : now.universalTime ≤ later.universalTime)
    (hday : ∀ call ∈ calls, call.now.day ≤ now.day) : q.Counts calls later := by
  intro client
  have hmono := hnow.isUtc.day_le hlater.isUtc hle
  rw [openUsage?_of_le hle, h client, filter_usageOn? hlater]
  by_cases hsame : later.day ≤ now.day
  · rw [if_pos hsame, Nat.le_antisymm hmono hsame]
  · -- on a new day nobody has checked yet
    have hzero : checksOn client later.day calls = 0 :=
      QuotaCall.checksOn_eq_zero fun call hcall =>
        Nat.lt_of_le_of_lt (hday call hcall) (Nat.lt_of_not_le hsame)
    rw [if_neg hsame, hzero, Nat.zero_min, usageOn?, if_pos rfl]

/-- A check is counted, and the client is told so. -/
theorem Counts.check_spec (h : q.Counts calls now) (hq : q.Sound) (hnow : now.IsUniversal)
    (hlimit : 1 ≤ q.limit) (client : String) :
    (q.check client now).1.openUsage? client now
        = usageOn? now.day (min (checksOn client now.day calls + 1) q.limit.toNat)
      ∧ (q.check client now).2
        = .ok ⟨decide (((checksOn client now.day calls + 1 : Nat) : Int) ≤ q.limit),
            standingOn q.limit (checksOn client now.day calls + 1) now.day⟩ := by
  have haware := hnow.isReading.aware
  have hday := h.dayOf_eq client
  have htold : ((min (checksOn client now.day calls + 1) q.limit.toNat : Nat) : Int)
      = min ((checksOn client now.day calls + 1 : Nat) : Int) q.limit := by omega
  by_cases hroom : checksOn client now.day calls < q.limit.toNat
  · -- below the limit the entry counts every check of the day, and from now on this one
    have hcount : min (checksOn client now.day calls) q.limit.toNat + 1
        = min (checksOn client now.day calls + 1) q.limit.toNat := by omega
    have hwithin : ((checksOn client now.day calls + 1 : Nat) : Int) ≤ q.limit := by omega
    rw [hq.check_of_room haware hnow.nextMidnight?_eq (by rw [hday]; simp only; omega), hday,
      Usage.onceMore, hcount]
    constructor
    · have hpos : min (checksOn client now.day calls + 1) q.limit.toNat ≠ 0 := by omega
      rw [openUsage?_withUsage_self, Option.filter_some, hnow.isOpenAt_endOf, usageOn?,
        if_neg hpos]
      simp
    · rw [stateOf, standingOn, htold, decide_eq_true hwithin]
  · -- checks beyond the limit leave the entry as it is
    have hcount : min (checksOn client now.day calls) q.limit.toNat
        = min (checksOn client now.day calls + 1) q.limit.toNat := by omega
    have hover : ¬ ((checksOn client now.day calls + 1 : Nat) : Int) ≤ q.limit := by omega
    rw [hq.check_of_full haware hnow.nextMidnight?_eq (by rw [hday]; simp only; omega), hday]
    constructor
    · rw [openUsage?_prune hq (Int.le_refl _), h client, hcount]
    · rw [stateOf, standingOn, hcount, htold, decide_eq_false hover]

/-- The counts stay right when a call is made. -/
theorem Counts.ask (h : q.Counts calls call.now) (hq : q.Sound) (hcall : call.now.IsUniversal)
    (hlimit : 1 ≤ q.limit) :
    (q.ask call).1.Counts (calls ++ [call]) call.now := by
  intro client
  rw [(hq.ask hcall.isReading).2]
  by_cases hown : call.isCheckOf client = true
  · rw [q.ask_of_isCheckOf hown, (h.check_spec hq hcall hlimit client).1,
      QuotaCall.checksOn_append_of_check hown]
  · rw [hq.openUsage?_ask_of_not_check hcall.isReading hown (Int.le_refl _), h client,
      QuotaCall.checksOn_append_of_not_check hown]

/-- **Counts.** After any calls the table says how often everybody has checked today. -/
theorem counts_after (hlimit : 1 ≤ limit) (h : Timeline calls)
    (hutc : ∀ call ∈ calls, call.now.IsUniversal) (hlater : later.IsUniversal)
    (hle : ∀ call ∈ calls, call.now.universalTime ≤ later.universalTime) :
    ((fresh limit).after calls).Counts calls later := by
  -- from the last call back: the calls before it lead to the quota that it is made to
  induction calls using List.reverseRecOn generalizing later with
  | nil =>
    intro client
    rw [checksOn, List.countP_nil, Nat.zero_min]
    rfl
  | append_singleton earlier call ih =>
    obtain ⟨hearlier, -, hbefore⟩ := QuotaCall.Timeline.append_singleton_iff.mp h
    obtain ⟨hutc, hcall⟩ := List.forall_mem_append.mp hutc
    obtain ⟨-, hle⟩ := List.forall_mem_append.mp hle
    rw [List.forall_mem_singleton] at hcall hle
    have hcounts : ((fresh limit).after earlier).Counts earlier call.now :=
      ih hearlier hutc hcall hbefore
    obtain ⟨hsound, hlimit'⟩ := after_fresh limit hearlier
    have hstep := hcounts.ask hsound hcall (hlimit'.symm ▸ hlimit)
    rw [after_append]
    refine hstep.of_le hcall hlater hle ?_
    refine List.forall_mem_append.mpr ⟨?_, List.forall_mem_singleton.mpr (Nat.le_refl _)⟩
    intro c hc
    exact (hutc c hc).isUtc.day_le hcall.isUtc (hbefore c hc)

/-- What a client is told that only asks how it stands. -/
theorem Counts.peek_eq (h : q.Counts calls now) (hq : q.Sound) (hnow : now.IsUniversal)
    (hlimit : 1 ≤ q.limit) (client : String) :
    q.peek client now = .ok (standingOn q.limit (checksOn client now.day calls) now.day) := by
  have hmin : ((min (checksOn client now.day calls) q.limit.toNat : Nat) : Int)
      = min (checksOn client now.day calls : Int) q.limit := by omega
  have hcurrent : q.current client now = .ok (q.dayOf client now (Instant.endOf now.day)) := by
    rw [hq.current_eq hnow.isReading.aware, hnow.nextMidnight?_eq]
    rfl
  rw [peek, hcurrent, h.dayOf_eq]
  simp only [stateOf, standingOn, hmin]

/-- What a call is told. -/
theorem Counts.snd_ask (h : q.Counts calls call.now) (hq : q.Sound)
    (hcall : call.now.IsUniversal) (hlimit : 1 ≤ q.limit) :
    (q.ask call).2
      = call.answerWith
          (decide ((checksOn call.client call.now.day (calls ++ [call]) : Int) ≤ q.limit))
          (standingOn q.limit (checksOn call.client call.now.day (calls ++ [call]))
            call.now.day) := by
  cases call with
  | check client now =>
    have hown : (QuotaCall.check client now).isCheckOf client = true := beq_self_eq_true client
    have hcount : checksOn client now.day (calls ++ [.check client now])
        = checksOn client now.day calls + 1 := QuotaCall.checksOn_append_of_check hown
    have hanswer := (h.check_spec hq hcall hlimit client).2
    simp only [QuotaCall.now_check, QuotaCall.client_check] at *
    simp only [Quota.ask, QuotaCall.answerWith, hcount, hanswer]
    rfl
  | peek client now =>
    have hcount : checksOn client now.day (calls ++ [.peek client now])
        = checksOn client now.day calls :=
      QuotaCall.checksOn_append_of_not_check Bool.false_ne_true
    have hanswer := h.peek_eq hq hcall hlimit client
    simp only [QuotaCall.now_peek, QuotaCall.client_peek] at *
    simp only [Quota.ask, QuotaCall.answerWith, hcount, hanswer]

/-- **The daily quota.** By a clock of universal time that is never put back, the check of a client
    is allowed exactly if it is one of its first ones on that day, as many as the limit says.
    Whoever asks is told how many of its checks on that day were allowed so far, how many scans are
    left, and that the day ends when the next date begins. -/
theorem log_daily {limit : Int} (hlimit : 1 ≤ limit) {calls : List QuotaCall}
    (hutc : ∀ call ∈ calls, call.now.IsUniversal) (hordered : QuotaCall.InOrder calls)
    {i : Nat} (hi : i < calls.length) :
    ∃ state : QuotaState,
      state.Tells limit (checksOn calls[i].client calls[i].now.day (calls.take (i + 1)))
        calls[i].now.day
      ∧ ((fresh limit).log calls)[i]?
        = some (calls[i], calls[i].answerWith
            (decide ((checksOn calls[i].client calls[i].now.day (calls.take (i + 1)) : Int)
              ≤ limit)) state) := by
  have h : Timeline calls := ⟨fun call hcall => (hutc call hcall).isReading, hordered⟩
  have hsplit : calls.take (i + 1) = calls.take i ++ [calls[i]] :=
    List.take_succ_eq_append_getElem hi
  have hprefix : Timeline (calls.take i ++ [calls[i]]) := by
    rw [← hsplit]
    rw [← List.take_append_drop (i + 1) calls] at h
    exact (QuotaCall.Timeline.append_iff.mp h).1
  obtain ⟨hearlier, -, hbefore⟩ := QuotaCall.Timeline.append_singleton_iff.mp hprefix
  have hcall : calls[i].now.IsUniversal := hutc _ (List.getElem_mem hi)
  have hcounts : ((fresh limit).after (calls.take i)).Counts (calls.take i) calls[i].now :=
    counts_after hlimit hearlier (fun call hmem => hutc call (List.mem_of_mem_take hmem)) hcall
      hbefore
  obtain ⟨hsound, hlimit'⟩ := after_fresh limit hearlier
  have hanswer := hcounts.snd_ask hsound hcall (hlimit'.symm ▸ hlimit)
  rw [hlimit', ← hsplit] at hanswer
  refine ⟨_, tells_standingOn limit _ _, ?_⟩
  rw [getElem?_log, List.getElem?_eq_getElem hi, Option.map_some, hanswer]

/-- A client checks twice late on 28 February 2024, once more at midnight, and asks how it stands;
    another one checks in between. -/
def callsOverLeapDay : List QuotaCall :=
  [.check "a" ⟨738943, 86399999998, some 0⟩, .check "a" ⟨738943, 86399999999, some 0⟩,
    .check "b" ⟨738943, 86399999999, some 0⟩, .check "a" ⟨738944, 0, some 0⟩,
    .peek "a" ⟨738944, 1, some 0⟩]

/-- The third check of the first client is allowed, as a day has begun. -/
theorem log_daily_overLeapDay :
    (1 : Int) ≤ 1
      ∧ (∀ call ∈ callsOverLeapDay, call.now.IsUniversal)
      ∧ QuotaCall.InOrder callsOverLeapDay
      ∧ 3 < callsOverLeapDay.length
      ∧ ∃ state : QuotaState, state.Tells 1 1 738944
        ∧ ((fresh 1).log callsOverLeapDay)[3]?
          = some (.check "a" ⟨738944, 0, some 0⟩, .decision (.ok ⟨true, state⟩)) := by
  have hutc : ∀ call ∈ callsOverLeapDay, call.now.IsUniversal := by decide
  have hordered : QuotaCall.InOrder callsOverLeapDay := by decide
  have hi : 3 < callsOverLeapDay.length := by decide
  refine ⟨Int.le_refl 1, hutc, hordered, hi, ?_⟩
  exact log_daily (Int.le_refl 1) hutc hordered hi

end Quota

end PlainScan
