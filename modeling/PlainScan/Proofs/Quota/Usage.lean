import Mathlib.Data.List.Nodup
import PlainScan.Quota

namespace PlainScan

/-!
# Open days

The table of a quota may hold days that are over until the next check forgets them.  What a client
is told depends on its own entry only, and on that only as long as its day is open.

* `Instant.IsReading` — what a clock with an offset shows.
* `Quota.openUsage?` — the usage of a client whose day is open.
* `Quota.Sound` — one entry for each client, and every count within the limit.
* `Quota.Sound.check_of_full`, `Quota.Sound.check_of_room`, `Quota.Sound.check_of_lastDay` — all
  that a check does and answers.
* `Quota.Sound.check`, `Quota.Sound.openUsage?_check_of_ne` — what it keeps of the table.
-/

/-! ### Readings -/

/-- What a clock with an offset shows. -/
structure Instant.IsReading (i : Instant) : Prop where
  aware : i.offset.isSome = true
  timeOfDay_lt : i.timeOfDay < Instant.dayLength

instance (i : Instant) : Decidable i.IsReading :=
  decidable_of_iff (i.offset.isSome = true ∧ i.timeOfDay < Instant.dayLength)
    ⟨fun h => ⟨h.1, h.2⟩, fun h => ⟨h.1, h.2⟩⟩

/-- Instants with an offset can be compared. -/
theorem Instant.reaches?_of_aware {i j : Instant} (hi : i.offset.isSome = true)
    (hj : j.offset.isSome = true) :
    i.reaches? j = some (decide (j.universalTime ≤ i.universalTime)) := by
  simp [reaches?, hi, hj]

/-- There is a next midnight except on the last day. -/
theorem Instant.nextMidnight?_eq_none_iff (i : Instant) :
    i.nextMidnight? = none ↔ CalendarDate.lastDay ≤ i.day := by
  simp [nextMidnight?]

theorem Instant.nextMidnight?_eq_some_iff {i midnight : Instant} :
    i.nextMidnight? = some midnight
      ↔ i.day < CalendarDate.lastDay ∧ midnight = ⟨i.day + 1, 0, i.offset⟩ := by
  simp [nextMidnight?, eq_comm]

/-- The next midnight is still to come. -/
theorem Instant.IsReading.lt_nextMidnight {i midnight : Instant} (hi : i.IsReading)
    (h : i.nextMidnight? = some midnight) : i.universalTime < midnight.universalTime := by
  obtain ⟨-, rfl⟩ := nextMidnight?_eq_some_iff.mp h
  have htime := hi.timeOfDay_lt
  simp only [universalTime, localTime, dayLength] at *
  omega

/-! ### Open days -/

/-- Whether the day of a usage is not over. -/
def Usage.isOpenAt (usage : Usage) (now : Instant) : Bool :=
  decide (now.universalTime < usage.resetAt.universalTime)

theorem Usage.isOpenAt_iff (usage : Usage) (now : Instant) :
    usage.isOpenAt now = true ↔ now.universalTime < usage.resetAt.universalTime :=
  decide_eq_true_iff

/-- A day that is open was open before. -/
theorem Usage.isOpenAt_of_le {usage : Usage} {now later : Instant}
    (hle : now.universalTime ≤ later.universalTime) (h : usage.isOpenAt later = true) :
    usage.isOpenAt now = true := by
  rw [isOpenAt_iff] at *
  omega

/-- Only days that are open now are open later. -/
theorem Usage.filter_isOpenAt_of_le {now later : Instant}
    (hle : now.universalTime ≤ later.universalTime) (usage? : Option Usage) :
    ((usage?.filter fun usage => usage.isOpenAt now).filter fun usage => usage.isOpenAt later)
      = usage?.filter fun usage => usage.isOpenAt later := by
  rw [Option.filter_filter]
  congr
  funext usage
  by_cases h : usage.isOpenAt later = true
  · simp [h, isOpenAt_of_le hle h]
  · simp [h]

/-- A usage with one scan more. -/
def Usage.onceMore (usage : Usage) : Usage := { usage with count := usage.count + 1 }

namespace Quota

variable {q : Quota} {client other : String} {now later : Instant}

/-- The usage of a client, if its day is open. -/
def openUsage? (q : Quota) (client : String) (now : Instant) : Option Usage :=
  (q.usage? client).filter fun usage => usage.isOpenAt now

/-- There is one entry for each client, it ends at an instant with an offset, and every count is
    within the limit. -/
structure Sound (q : Quota) : Prop where
  nodup : (q.clients.map Prod.fst).Nodup
  aware : ∀ e ∈ q.clients, e.2.resetAt.offset.isSome = true
  count_pos : ∀ e ∈ q.clients, 1 ≤ e.2.count
  count_le : ∀ e ∈ q.clients, (e.2.count : Int) ≤ q.limit

/-- A quota that nobody has used. -/
def fresh (limit : Int) : Quota := { limit := limit }

theorem sound_fresh (limit : Int) : (fresh limit).Sound where
  nodup := List.nodup_nil
  aware := List.forall_mem_nil _
  count_pos := List.forall_mem_nil _
  count_le := List.forall_mem_nil _

/-- What is open later is what is open now, as far as it has not ended by then. -/
theorem openUsage?_of_le (hle : now.universalTime ≤ later.universalTime) :
    q.openUsage? client later
      = (q.openUsage? client now).filter fun usage => usage.isOpenAt later := by
  rw [openUsage?, openUsage?, Usage.filter_isOpenAt_of_le hle]

/-- The entry of a client is one of the table. -/
theorem mem_of_usage? {usage : Usage} (h : q.usage? client = some usage) :
    (client, usage) ∈ q.clients := by
  obtain ⟨e, hfind, rfl⟩ := Option.map_eq_some_iff.mp h
  have hclient : e.1 = client := by simpa using List.find?_some hfind
  rw [← hclient]
  exact List.mem_of_find?_eq_some hfind

theorem mem_of_openUsage? {usage : Usage} (h : q.openUsage? client now = some usage) :
    (client, usage) ∈ q.clients :=
  mem_of_usage? (Option.filter_eq_some_iff.mp h).1

/-- The current day of a client is its open one, or a fresh one. -/
theorem Sound.current_eq (hq : q.Sound) (hnow : now.offset.isSome = true) (client : String) :
    q.current client now = match now.nextMidnight? with
      | none => .error .noNextDay
      | some midnight => .ok ((q.openUsage? client now).getD ⟨midnight, 0⟩) := by
  unfold current openUsage?
  cases now.nextMidnight? with
  | none => rfl
  | some midnight =>
    cases husage : q.usage? client with
    | none => rfl
    | some usage =>
      have haware : usage.resetAt.offset.isSome = true := hq.aware _ (mem_of_usage? husage)
      simp only [Option.filter_some, Usage.isOpenAt, Instant.reaches?_of_aware hnow haware]
      by_cases hover : usage.resetAt.universalTime ≤ now.universalTime
      · simp [hover, Int.not_lt.mpr hover]
      · simp [hover, Int.not_le.mp hover]

/-- How a client stands depends on the limit and on its usage. -/
theorem stateOf_congr {q' : Quota} (h : q.limit = q'.limit) : q.stateOf = q'.stateOf := by
  funext usage
  rw [stateOf, stateOf, h]

/-! ### Forgetting -/

/-- A quota without the days that are over. -/
def prune (q : Quota) (now : Instant) : Quota :=
  { q with clients := q.clients.filter fun e => e.2.isOpenAt now }

theorem pruned?_eq {clients : List (String × Usage)}
    (haware : ∀ e ∈ clients, e.2.resetAt.offset.isSome = true)
    (hnow : now.offset.isSome = true) :
    pruned? now clients = some (clients.filter fun e => e.2.isOpenAt now) := by
  induction clients with
  | nil => rfl
  | cons e rest ih =>
    obtain ⟨client, usage⟩ := e
    rw [List.forall_mem_cons] at haware
    by_cases hover : usage.resetAt.universalTime ≤ now.universalTime
    · have hclosed : ¬ now.universalTime < usage.resetAt.universalTime := by omega
      simp [pruned?, Instant.reaches?_of_aware hnow haware.1, ih haware.2, hover,
        Usage.isOpenAt, hclosed]
    · have hopen : now.universalTime < usage.resetAt.universalTime := by omega
      simp [pruned?, Instant.reaches?_of_aware hnow haware.1, ih haware.2, hover,
        Usage.isOpenAt, hopen]

/-- What is left is sound. -/
theorem Sound.prune (hq : q.Sound) (now : Instant) : (q.prune now).Sound where
  nodup := hq.nodup.sublist (List.filter_sublist.map Prod.fst)
  aware e he := hq.aware e (List.mem_of_mem_filter he)
  count_pos e he := hq.count_pos e (List.mem_of_mem_filter he)
  count_le e he := hq.count_le e (List.mem_of_mem_filter he)

/-- Among entries with distinct clients, forgetting others does not change which one is found. -/
theorem find?_filter_of_nodup {entries : List (String × Usage)}
    (h : (entries.map Prod.fst).Nodup) (keep : Usage → Bool) (client : String) :
    (entries.filter fun e => keep e.2).find? (fun e => e.1 == client)
      = (entries.find? fun e => e.1 == client).filter fun e => keep e.2 := by
  induction entries with
  | nil => rfl
  | cons e rest ih =>
    rw [List.map_cons, List.nodup_cons] at h
    by_cases hclient : e.1 = client
    · -- no entry of this client comes after it
      have hrest : (rest.find? fun e => e.1 == client) = none := by
        rw [List.find?_eq_none]
        intro other hother heq
        apply h.1
        rw [hclient, ← beq_iff_eq.mp heq]
        exact List.mem_map_of_mem hother
      by_cases hkeep : keep e.2 = true
      · simp [hclient, hkeep, Option.filter_some]
      · simp [hclient, hkeep, Option.filter_some, ih h.2, hrest]
    · by_cases hkeep : keep e.2 = true
      · simp [hclient, hkeep, ih h.2]
      · simp [hclient, hkeep, ih h.2]

/-- The entry that is left of a client is its open one. -/
theorem usage?_prune (hq : q.Sound) (client : String) (now : Instant) :
    (q.prune now).usage? client = q.openUsage? client now := by
  rw [openUsage?, usage?, usage?, prune, Option.filter_map,
    find?_filter_of_nodup hq.nodup fun usage => usage.isOpenAt now]
  rfl

/-- Nobody notices that days that are over are forgotten. -/
theorem openUsage?_prune (hq : q.Sound) (hle : now.universalTime ≤ later.universalTime) :
    (q.prune now).openUsage? client later = q.openUsage? client later := by
  rw [openUsage?, usage?_prune hq, ← openUsage?_of_le hle]

/-! ### New entries -/

/-- A quota in which a client has a new entry. -/
def withUsage (q : Quota) (client : String) (usage : Usage) : Quota :=
  { q with clients := setUsage client usage q.clients }

theorem mem_setUsage {usage : Usage} {entries : List (String × Usage)} {e : String × Usage}
    (h : e ∈ setUsage client usage entries) : e = (client, usage) ∨ e ∈ entries := by
  induction entries with
  | nil => exact .inl (List.mem_singleton.mp h)
  | cons first rest ih =>
    obtain ⟨c, old⟩ := first
    rw [setUsage] at h
    split at h
    · rename_i hc
      rw [beq_iff_eq] at hc
      subst hc
      rcases List.mem_cons.mp h with rfl | h
      · exact .inl rfl
      · exact .inr (List.mem_cons_of_mem _ h)
    · rcases List.mem_cons.mp h with rfl | h
      · exact .inr List.mem_cons_self
      · exact (ih h).imp_right (List.mem_cons_of_mem _)

/-- The clients stay the same, or one is added at the end. -/
theorem map_fst_setUsage (client : String) (usage : Usage) (entries : List (String × Usage)) :
    (setUsage client usage entries).map Prod.fst
      = if client ∈ entries.map Prod.fst then entries.map Prod.fst
        else entries.map Prod.fst ++ [client] := by
  induction entries with
  | nil => rfl
  | cons first rest ih =>
    obtain ⟨c, old⟩ := first
    by_cases hc : c = client
    · simp [setUsage, hc]
    · by_cases hmem : client ∈ rest.map Prod.fst
      · simp [setUsage, hc, Ne.symm hc, ih, hmem]
      · simp [setUsage, hc, Ne.symm hc, ih, hmem]

theorem find?_setUsage (client other : String) (usage : Usage)
    (entries : List (String × Usage)) :
    (setUsage client usage entries).find? (fun e => e.1 == other)
      = if client = other then some (client, usage) else entries.find? fun e => e.1 == other := by
  induction entries with
  | nil => by_cases h : client = other <;> simp [setUsage, h]
  | cons first rest ih =>
    obtain ⟨c, old⟩ := first
    by_cases hc : c = client
    · by_cases h : client = other <;> simp [setUsage, hc, h]
    · rw [setUsage, if_neg (by simpa using hc), List.find?_cons, List.find?_cons, ih]
      by_cases h : client = other
      · have hother : (c == other) = false := by simpa [← h] using hc
        simp only [hother, h, if_true]
      · simp only [h, if_false]

/-- A new entry is open as long as its day. -/
theorem openUsage?_withUsage_self (q : Quota) (client : String) (usage : Usage) (now : Instant) :
    (q.withUsage client usage).openUsage? client now
      = (some usage).filter fun usage => usage.isOpenAt now := by
  simp [openUsage?, usage?, withUsage, find?_setUsage]

/-- Others do not notice a new entry. -/
theorem openUsage?_withUsage_of_ne (h : client ≠ other) (usage : Usage) :
    (q.withUsage client usage).openUsage? other now = q.openUsage? other now := by
  simp [openUsage?, usage?, withUsage, find?_setUsage, h]

/-- With a new entry that is within the limit, a quota stays sound. -/
theorem Sound.withUsage (hq : q.Sound) {usage : Usage}
    (haware : usage.resetAt.offset.isSome = true) (hpos : 1 ≤ usage.count)
    (hle : (usage.count : Int) ≤ q.limit) : (q.withUsage client usage).Sound where
  nodup := by
    rw [Quota.withUsage, map_fst_setUsage]
    split
    · exact hq.nodup
    · rename_i hnew
      exact List.nodup_append_comm.mp (List.nodup_cons.mpr ⟨hnew, hq.nodup⟩)
  aware e he := by
    rcases mem_setUsage he with rfl | he
    · exact haware
    · exact hq.aware e he
  count_pos e he := by
    rcases mem_setUsage he with rfl | he
    · exact hpos
    · exact hq.count_pos e he
  count_le e he := by
    rcases mem_setUsage he with rfl | he
    · exact hle
    · exact hq.count_le e he

/-! ### Checks -/

/-- The day on which a client asks: its open one, or a fresh one that ends at midnight. -/
def dayOf (q : Quota) (client : String) (now midnight : Instant) : Usage :=
  (q.openUsage? client now).getD ⟨midnight, 0⟩

/-- A check forgets days that are over before it looks at the client. -/
theorem Sound.check_eq (hq : q.Sound) (hnow : now.offset.isSome = true) (client : String) :
    q.check client now = match (q.prune now).current client now with
      | .error fault => (q.prune now, .error fault)
      | .ok usage =>
        (((q.prune now).consume client usage).1, .ok ((q.prune now).consume client usage).2) := by
  rw [check, pruned?_eq hq.aware hnow]
  rfl

/-- On the last day a check fails. -/
theorem Sound.check_of_lastDay (hq : q.Sound) (hnow : now.offset.isSome = true)
    (hlast : now.nextMidnight? = none) (client : String) :
    q.check client now = (q.prune now, .error .noNextDay) := by
  rw [hq.check_eq hnow, (hq.prune now).current_eq hnow, hlast]

/-- On any other day the day of the client is looked at. -/
theorem Sound.check_of_midnight (hq : q.Sound) (hnow : now.offset.isSome = true)
    {midnight : Instant} (hmidnight : now.nextMidnight? = some midnight) (client : String) :
    q.check client now = (((q.prune now).consume client (q.dayOf client now midnight)).1,
      .ok ((q.prune now).consume client (q.dayOf client now midnight)).2) := by
  rw [hq.check_eq hnow, (hq.prune now).current_eq hnow, hmidnight,
    openUsage?_prune hq (Int.le_refl _), dayOf]

/-- A check is refused where the limit is reached. -/
theorem Sound.check_of_full (hq : q.Sound) (hnow : now.offset.isSome = true) {midnight : Instant}
    (hmidnight : now.nextMidnight? = some midnight)
    (hfull : q.limit ≤ (q.dayOf client now midnight).count) :
    q.check client now
      = (q.prune now, .ok ⟨false, q.stateOf (q.dayOf client now midnight)⟩) := by
  have hconsume : (q.prune now).consume client (q.dayOf client now midnight)
      = (q.prune now, ⟨false, q.stateOf (q.dayOf client now midnight)⟩) := if_pos hfull
  rw [hq.check_of_midnight hnow hmidnight, hconsume]

/-- Below the limit a check is allowed, and the day of the client is used once more. -/
theorem Sound.check_of_room (hq : q.Sound) (hnow : now.offset.isSome = true) {midnight : Instant}
    (hmidnight : now.nextMidnight? = some midnight)
    (hroom : ((q.dayOf client now midnight).count : Int) < q.limit) :
    q.check client now
      = ((q.prune now).withUsage client (q.dayOf client now midnight).onceMore,
        .ok ⟨true, q.stateOf (q.dayOf client now midnight).onceMore⟩) := by
  have hconsume : (q.prune now).consume client (q.dayOf client now midnight)
      = ((q.prune now).withUsage client (q.dayOf client now midnight).onceMore,
        ⟨true, q.stateOf (q.dayOf client now midnight).onceMore⟩) := if_neg (Int.not_le.mpr hroom)
  rw [hq.check_of_midnight hnow hmidnight, hconsume]

/-- The day of a client ends in the future, at an instant with an offset. -/
theorem Sound.dayOf_spec (hq : q.Sound) (hnow : now.IsReading) {midnight : Instant}
    (hmidnight : now.nextMidnight? = some midnight) (client : String) :
    (q.dayOf client now midnight).isOpenAt now = true
      ∧ (q.dayOf client now midnight).resetAt.offset.isSome = true := by
  unfold dayOf
  cases hopen : q.openUsage? client now with
  | none =>
    -- a fresh day ends at midnight, in the offset of the reading
    refine ⟨(Usage.isOpenAt_iff _ _).mpr (hnow.lt_nextMidnight hmidnight), ?_⟩
    obtain ⟨-, rfl⟩ := Instant.nextMidnight?_eq_some_iff.mp hmidnight
    exact hnow.aware
  | some usage =>
    exact ⟨(Option.filter_eq_some_iff.mp hopen).2, hq.aware _ (mem_of_openUsage? hopen)⟩

/-- **What a check writes down.** Days that are over are forgotten; apart from that there is at most
    a new entry for the client, with an open day and a count within the limit. -/
theorem Sound.check_fst (hq : q.Sound) (hnow : now.IsReading) (client : String) :
    (q.check client now).1 = q.prune now
      ∨ ∃ usage : Usage, (q.check client now).1 = (q.prune now).withUsage client usage
          ∧ usage.isOpenAt now = true ∧ usage.resetAt.offset.isSome = true
          ∧ 1 ≤ usage.count ∧ (usage.count : Int) ≤ q.limit := by
  cases hmidnight : now.nextMidnight? with
  | none => exact .inl (by rw [hq.check_of_lastDay hnow.aware hmidnight])
  | some midnight =>
    by_cases hfull : q.limit ≤ (q.dayOf client now midnight).count
    · exact .inl (by rw [hq.check_of_full hnow.aware hmidnight hfull])
    · rw [Int.not_le] at hfull
      obtain ⟨hopen, haware⟩ := hq.dayOf_spec hnow hmidnight client
      exact .inr ⟨(q.dayOf client now midnight).onceMore,
        by rw [hq.check_of_room hnow.aware hmidnight hfull], hopen, haware, Nat.le_add_left 1 _,
        hfull⟩

/-- A check leaves the limit as it is. -/
theorem Sound.limit_check (hq : q.Sound) (hnow : now.IsReading) (client : String) :
    (q.check client now).1.limit = q.limit := by
  rcases hq.check_fst hnow client with h | ⟨usage, h, -⟩
  · rw [h]
    rfl
  · rw [h]
    rfl

/-- After a check a sound quota is sound. -/
theorem Sound.check (hq : q.Sound) (hnow : now.IsReading) (client : String) :
    (q.check client now).1.Sound := by
  rcases hq.check_fst hnow client with h | ⟨usage, h, -, haware, hpos, hle⟩
  · rw [h]
    exact hq.prune now
  · rw [h]
    exact (hq.prune now).withUsage haware hpos hle

/-- After a check all days in the table are open. -/
theorem Sound.isOpenAt_of_mem_check (hq : q.Sound) (hnow : now.IsReading) {client : String}
    {e : String × Usage} (he : e ∈ (q.check client now).1.clients) : e.2.isOpenAt now = true := by
  rcases hq.check_fst hnow client with h | ⟨usage, h, hopen, -⟩
  · rw [h] at he
    exact (List.mem_filter.mp he).2
  · -- the entry is the one that was just written down, or it was left because it is open
    rw [h] at he
    rcases mem_setUsage he with rfl | he
    · exact hopen
    · exact (List.mem_filter.mp he).2

/-- Others do not notice a check. -/
theorem Sound.openUsage?_check_of_ne (hq : q.Sound) (hnow : now.IsReading) (h : client ≠ other)
    (hle : now.universalTime ≤ later.universalTime) :
    (q.check client now).1.openUsage? other later = q.openUsage? other later := by
  rcases hq.check_fst hnow client with hcheck | ⟨usage, hcheck, -⟩
  · rw [hcheck, openUsage?_prune hq hle]
  · rw [hcheck, openUsage?_withUsage_of_ne h, openUsage?_prune hq hle]

end Quota

end PlainScan
