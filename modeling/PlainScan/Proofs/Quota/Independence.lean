import PlainScan.Proofs.Quota.Calls

namespace PlainScan

/-!
# Clients do not notice each other

Checks of others make a quota forget days that are over.  No client notices: what it is told depends
on the limit and on its own open day.

* `Quota.AgreesOn` — two quotas look the same to a client.
* `Quota.Sound.ask_congr` — they answer its next call alike, and look the same after it.
* `Quota.Sound.log_filter` — its answers stay as they are if calls of others and peeks are left out.
* `Quota.log_independent` — this for every run, and what the table holds after each check.
-/

open QuotaCall (Timeline)

namespace Quota

variable {q q' : Quota} {client : String} {call : QuotaCall} {calls : List QuotaCall}
  {now later : Instant}

/-! ### Quotas that look the same -/

/-- Two quotas look the same to a client at an instant. -/
structure AgreesOn (q q' : Quota) (client : String) (now : Instant) : Prop where
  limit_eq : q.limit = q'.limit
  openUsage?_eq : q.openUsage? client now = q'.openUsage? client now

/-- Quotas that look the same now look the same later. -/
theorem AgreesOn.of_le (h : AgreesOn q q' client now)
    (hle : now.universalTime ≤ later.universalTime) : AgreesOn q q' client later where
  limit_eq := h.limit_eq
  openUsage?_eq := by
    rw [openUsage?_of_le hle, openUsage?_of_le hle, h.openUsage?_eq]

/-- A check is answered the same by quotas that look the same, and they look the same after it. -/
theorem Sound.check_congr (hq : q.Sound) (hq' : q'.Sound) (hnow : now.IsReading)
    (h : AgreesOn q q' client now) :
    (q.check client now).2 = (q'.check client now).2
      ∧ AgreesOn (q.check client now).1 (q'.check client now).1 client now := by
  have hlimit := h.limit_eq
  have hstate := stateOf_congr hlimit
  -- what is dropped at a check does not concern an open day
  have hpruned : AgreesOn (q.prune now) (q'.prune now) client now := by
    refine ⟨hlimit, ?_⟩
    rw [openUsage?_prune hq (Int.le_refl _), openUsage?_prune hq' (Int.le_refl _), h.openUsage?_eq]
  cases hmidnight : now.nextMidnight? with
  | none =>
    rw [hq.check_of_lastDay hnow.aware hmidnight, hq'.check_of_lastDay hnow.aware hmidnight]
    exact ⟨rfl, hpruned⟩
  | some midnight =>
    have hday : q.dayOf client now midnight = q'.dayOf client now midnight := by
      rw [dayOf, dayOf, h.openUsage?_eq]
    by_cases hfull : q.limit ≤ (q.dayOf client now midnight).count
    · rw [hq.check_of_full hnow.aware hmidnight hfull,
        hq'.check_of_full hnow.aware hmidnight (hday ▸ hlimit ▸ hfull)]
      exact ⟨by rw [hstate, hday], hpruned⟩
    · rw [Int.not_le] at hfull
      rw [hq.check_of_room hnow.aware hmidnight hfull,
        hq'.check_of_room hnow.aware hmidnight (hday ▸ hlimit ▸ hfull)]
      refine ⟨by rw [hstate, hday], hlimit, ?_⟩
      rw [openUsage?_withUsage_self, openUsage?_withUsage_self, hday]

/-- A question of how a client stands is answered the same as well. -/
theorem Sound.peek_congr (hq : q.Sound) (hq' : q'.Sound) (hnow : now.IsReading)
    (h : AgreesOn q q' client now) : q.peek client now = q'.peek client now := by
  rw [peek_eq, peek_eq, hq.current_eq hnow.aware, hq'.current_eq hnow.aware, h.openUsage?_eq,
    stateOf_congr h.limit_eq]

/-- A call of a client is answered the same by quotas that look the same to it, and they look the
    same after it. -/
theorem Sound.ask_congr (hq : q.Sound) (hq' : q'.Sound) (hcall : call.now.IsReading)
    (h : AgreesOn q q' call.client call.now) :
    (q.ask call).2 = (q'.ask call).2
      ∧ AgreesOn (q.ask call).1 (q'.ask call).1 call.client call.now := by
  cases call with
  | check client now =>
    obtain ⟨hanswer, hafter⟩ := hq.check_congr hq' hcall h
    exact ⟨congrArg QuotaAnswer.decision hanswer, hafter⟩
  | peek client now => exact ⟨congrArg QuotaAnswer.standing (hq.peek_congr hq' hcall h), h⟩

/-! ### Calls that are left out -/

/-- **Other calls.** If calls are left out, but no check of a client, its other calls are answered
    as before.  The two quotas need only look the same to this client. -/
theorem Sound.log_filter {keep : QuotaCall → Bool} (hq : q.Sound) (hq' : q'.Sound)
    (h : Timeline calls) (hkeep : ∀ call ∈ calls, call.isCheckOf client = true → keep call = true)
    (hagrees : ∀ call ∈ calls, AgreesOn q q' client call.now) :
    ((q.log calls).filter fun e => keep e.1 && (e.1.client == client))
      = (q'.log (calls.filter keep)).filter fun e => e.1.client == client := by
  induction calls generalizing q q' with
  | nil => rfl
  | cons call later ih =>
    obtain ⟨hcall, hfirst, hlater⟩ := QuotaCall.Timeline.cons_iff.mp h
    obtain ⟨hkeepCall, hkeepLater⟩ := List.forall_mem_cons.mp hkeep
    obtain ⟨hnow, hthen⟩ := List.forall_mem_cons.mp hagrees
    obtain ⟨hstep, hlimit⟩ := hq.ask hcall
    obtain ⟨hstep', hlimit'⟩ := hq'.ask hcall
    cases hkept : keep call with
    | false =>
      -- a call that is left out is no check of the client, which does not notice it
      have hnot : ¬ call.isCheckOf client = true := by
        intro hcheck
        rw [hkeepCall hcheck] at hkept
        cases hkept
      rw [log, List.filter_cons_of_neg (by simp [hkept]), List.filter_cons_of_neg (by simp [hkept])]
      refine ih hstep hq' hlater hkeepLater fun c hc => ⟨hlimit.trans hnow.limit_eq, ?_⟩
      rw [hq.openUsage?_ask_of_not_check hcall hnot (hfirst c hc), (hthen c hc).openUsage?_eq]
    | true =>
      rw [log, List.filter_cons_of_pos hkept, log]
      by_cases hclient : call.client = client
      · -- the client's own call is answered by both
        subst hclient
        obtain ⟨hanswer, hafter⟩ := hq.ask_congr hq' hcall hnow
        rw [List.filter_cons_of_pos (by simp [hkept]), List.filter_cons_of_pos (by simp), hanswer,
          ih hstep hstep' hlater hkeepLater fun c hc => hafter.of_le (hfirst c hc)]
      · -- a call of another client is noticed in neither
        have hnot : ¬ call.isCheckOf client = true := by
          intro hcheck
          rw [QuotaCall.client_of_isCheckOf hcheck] at hclient
          exact hclient rfl
        rw [List.filter_cons_of_neg (by simp [hclient]),
          List.filter_cons_of_neg (by simp [hclient])]
        refine ih hstep hstep' hlater hkeepLater fun c hc => ⟨?_, ?_⟩
        · rw [hlimit, hlimit', hnow.limit_eq]
        · rw [hq.openUsage?_ask_of_not_check hcall hnot (hfirst c hc),
            hq'.openUsage?_ask_of_not_check hcall hnot (hfirst c hc), (hthen c hc).openUsage?_eq]

/-- A client that keeps only its own checks gets the same answers to them. -/
theorem Sound.log_filter_checks (hq : q.Sound) (h : Timeline calls) (client : String) :
    (q.log calls).filter (fun e => e.1.isCheckOf client)
      = q.log (calls.filter fun call => call.isCheckOf client) := by
  have hown : ∀ call : QuotaCall,
      (call.isCheckOf client && (call.client == client)) = call.isCheckOf client := by
    intro call
    by_cases hcheck : call.isCheckOf client = true
    · rw [QuotaCall.client_of_isCheckOf hcheck]
      simp [QuotaCall.isCheckOf, QuotaCall.client]
    · simp [hcheck]
  have hfilter := hq.log_filter hq h (fun _ _ hcheck => hcheck) fun _ _ =>
    (⟨rfl, rfl⟩ : AgreesOn q q client _)
  simp only [hown] at hfilter
  rw [hfilter, List.filter_eq_self]
  -- all the calls that are left are its own
  intro e he
  have hcall : e.1 ∈ calls.filter fun call => call.isCheckOf client := by
    rw [← map_fst_log q (calls.filter fun call => call.isCheckOf client)]
    exact List.mem_map_of_mem he
  rw [QuotaCall.client_of_isCheckOf (List.mem_filter.mp hcall).2]
  exact beq_self_eq_true client

/-- **Independence.** In a run of calls at instants with any offsets, one after another, a client's
    checks are answered as if there were no others and no peeks.  After each check at an instant,
    every day in the table ends after that instant and has at least one scan, and at most as many as
    the limit. -/
theorem log_independent (limit : Int) {calls : List QuotaCall} (h : Timeline calls) :
    (∀ client, ((fresh limit).log calls).filter (fun e => e.1.isCheckOf client)
        = (fresh limit).log (calls.filter fun call => call.isCheckOf client))
      ∧ ∀ earlier client now later, calls = earlier ++ .check client now :: later →
          ∀ e ∈ ((fresh limit).after (earlier ++ [.check client now])).clients,
            now.universalTime < e.2.resetAt.universalTime ∧ 1 ≤ e.2.count
              ∧ (e.2.count : Int) ≤ limit := by
  refine ⟨(sound_fresh limit).log_filter_checks h, ?_⟩
  rintro earlier client now later rfl e he
  rw [← List.singleton_append, ← List.append_assoc] at h
  obtain ⟨hrun, -⟩ := QuotaCall.Timeline.append_iff.mp h
  obtain ⟨hsound, hlimit⟩ := after_fresh limit hrun
  have hle := hsound.count_le e he
  rw [hlimit] at hle
  exact ⟨(Usage.isOpenAt_iff _ _).mp (isOpenAt_of_mem_after hrun he), hsound.count_pos e he, hle⟩

/-! ### Two clients in different offsets -/

/-- A client checks on an evening east of the meridian, peeks, and checks on the same evening west
    of it; before that a check of another one makes the quota forget the day in the east. -/
def mixedCalls : List QuotaCall :=
  [.check "a" ⟨100, 80000000000, some 7200000000⟩, .peek "a" ⟨100, 82000000000, some 0⟩,
    .check "b" ⟨100, 84000000000, some 0⟩, .check "a" ⟨100, 80000000000, some (-18000000000)⟩]

/-- Both checks of the first client are allowed, as if it had been alone. -/
theorem log_independent_mixedCalls :
    Timeline mixedCalls
      ∧ (fresh 1).log (mixedCalls.filter fun call => call.isCheckOf "a")
        = [(.check "a" ⟨100, 80000000000, some 7200000000⟩,
              .decision (.ok ⟨true, ⟨1, 1, ⟨101, 0, some 7200000000⟩⟩⟩)),
            (.check "a" ⟨100, 80000000000, some (-18000000000)⟩,
              .decision (.ok ⟨true, ⟨1, 1, ⟨101, 0, some (-18000000000)⟩⟩⟩))] := by
  have h : Timeline mixedCalls := ⟨by decide, by decide⟩
  refine ⟨h, ?_⟩
  rw [← (log_independent 1 h).1 "a"]
  decide

end Quota

end PlainScan
