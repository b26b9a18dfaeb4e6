import PlainScan.Proofs.Quota.Usage

namespace PlainScan

/-!
# Calls of a quota

* `QuotaCall`, `QuotaAnswer` — a question of a client at an instant, and what it is told.
* `Quota.after`, `Quota.log` — the quota after calls one after another, and the answer to each.
* `QuotaCall.Timeline` — the instants of calls are what clocks with offsets show, in order.
* `Quota.Sound.after`, `Quota.isOpenAt_of_mem_after` — what holds of the table after any calls.
-/

/-! ### Calls and answers -/

/-- A question of a client at an instant: for one more scan, or only how it stands. -/
inductive QuotaCall where
  | check (client : String) (now : Instant)
  | peek (client : String) (now : Instant)
  deriving DecidableEq, Repr

/-- What a client is told. -/
inductive QuotaAnswer where
  | decision (answer : Except ClockFault QuotaDecision)
  | standing (answer : Except ClockFault QuotaState)
  deriving DecidableEq

namespace QuotaCall

/-- Who asks. -/
def client : QuotaCall → String
  | check client _ => client
  | peek client _ => client

/-- When. -/
def now : QuotaCall → Instant
  | check _ now => now
  | peek _ now => now

@[simp] theorem client_check (client : String) (now : Instant) :
    (check client now).client = client := rfl

@[simp] theorem client_peek (client : String) (now : Instant) :
    (peek client now).client = client := rfl

@[simp] theorem now_check (client : String) (now : Instant) : (check client now).now = now := rfl

@[simp] theorem now_peek (client : String) (now : Instant) : (peek client now).now = now := rfl

/-- Whether a client asks for one more scan. -/
def isCheckOf (client : String) : QuotaCall → Bool
  | check other _ => other == client
  | peek _ _ => false

/-- Calls are made one after another. -/
def InOrder (calls : List QuotaCall) : Prop :=
  calls.Pairwise fun first second => first.now.universalTime ≤ second.now.universalTime

instance (calls : List QuotaCall) : Decidable (InOrder calls) :=
  inferInstanceAs (Decidable (List.Pairwise _ _))

/-- Calls are made one after another, at instants that clocks with offsets show. -/
structure Timeline (calls : List QuotaCall) : Prop where
  readings : ∀ call ∈ calls, call.now.IsReading
  ordered : InOrder calls

theorem client_of_isCheckOf {client : String} {call : QuotaCall}
    (h : call.isCheckOf client = true) : call = .check client call.now := by
  cases call with
  | check other now =>
    obtain rfl : other = client := by simpa [isCheckOf] using h
    rfl
  | peek other now => simp [isCheckOf] at h

namespace Timeline

variable {calls earlier later : List QuotaCall} {call : QuotaCall}

theorem nil : Timeline [] := ⟨List.forall_mem_nil _, List.Pairwise.nil⟩

theorem cons_iff :
    Timeline (call :: later) ↔ call.now.IsReading
      ∧ (∀ c ∈ later, call.now.universalTime ≤ c.now.universalTime) ∧ Timeline later := by
  constructor
  · rintro ⟨hreadings, hordered⟩
    obtain ⟨hreading, hreadings⟩ := List.forall_mem_cons.mp hreadings
    obtain ⟨hfirst, hordered⟩ := List.pairwise_cons.mp hordered
    exact ⟨hreading, hfirst, hreadings, hordered⟩
  · rintro ⟨hreading, hfirst, hlater⟩
    exact ⟨List.forall_mem_cons.mpr ⟨hreading, hlater.readings⟩,
      List.pairwise_cons.mpr ⟨hfirst, hlater.ordered⟩⟩

theorem append_iff :
    Timeline (earlier ++ later) ↔ Timeline earlier ∧ Timeline later
      ∧ ∀ c ∈ earlier, ∀ d ∈ later, c.now.universalTime ≤ d.now.universalTime := by
  constructor
  · rintro ⟨hreadings, hordered⟩
    obtain ⟨hearlier, hlater⟩ := List.forall_mem_append.mp hreadings
    obtain ⟨hordered, hordered', hbetween⟩ := List.pairwise_append.mp hordered
    exact ⟨⟨hearlier, hordered⟩, ⟨hlater, hordered'⟩, hbetween⟩
  · rintro ⟨hearlier, hlater, hbetween⟩
    exact ⟨List.forall_mem_append.mpr ⟨hearlier.readings, hlater.readings⟩,
      List.pairwise_append.mpr ⟨hearlier.ordered, hlater.ordered, hbetween⟩⟩

theorem append_singleton_iff :
    Timeline (earlier ++ [call]) ↔ Timeline earlier ∧ call.now.IsReading
      ∧ ∀ c ∈ earlier, c.now.universalTime ≤ call.now.universalTime := by
  rw [append_iff, cons_iff]
  simp [nil]

end Timeline

end QuotaCall

open QuotaCall (Timeline)

namespace Quota

/-- Answers a call. -/
def ask (q : Quota) : QuotaCall → Quota × QuotaAnswer
  | .check client now => ((q.check client now).1, .decision (q.check client now).2)
  | .peek client now => (q, .standing (q.peek client now))

/-- The quota after calls one after another. -/
def after (q : Quota) (calls : List QuotaCall) : Quota :=
  calls.foldl (fun q call => (q.ask call).1) q

/-- Calls one after another, each with its answer. -/
def log (q : Quota) : List QuotaCall → List (QuotaCall × QuotaAnswer)
  | [] => []
  | call :: later => (call, (q.ask call).2) :: log (q.ask call).1 later

variable {q : Quota} {client : String} {call : QuotaCall} {calls : List QuotaCall}
  {later : Instant}

theorem after_cons (q : Quota) (call : QuotaCall) (calls : List QuotaCall) :
    q.after (call :: calls) = (q.ask call).1.after calls := rfl

theorem after_append (q : Quota) (earlier later : List QuotaCall) :
    q.after (earlier ++ later) = (q.after earlier).after later :=
  List.foldl_append

/-- The log holds the calls. -/
theorem map_fst_log (q : Quota) (calls : List QuotaCall) : (q.log calls).map Prod.fst = calls := by
  induction calls generalizing q with
  | nil => rfl
  | cons call later ih => rw [log, List.map_cons, ih]

/-- Each call is answered by the quota after the calls before it. -/
theorem getElem?_log (q : Quota) (calls : List QuotaCall) (i : Nat) :
    (q.log calls)[i]?
      = calls[i]?.map fun call => (call, ((q.after (calls.take i)).ask call).2) := by
  induction calls generalizing q i with
  | nil => rfl
  | cons call later ih =>
    cases i with
    | zero => rfl
    | succ i => simpa [log, after] using ih (q.ask call).1 i

/-! ### One call -/

theorem ask_of_isCheckOf (q : Quota) (h : call.isCheckOf client = true) :
    q.ask call = ((q.check client call.now).1, .decision (q.check client call.now).2) := by
  rw [QuotaCall.client_of_isCheckOf h]
  rfl

/-- A sound quota stays sound, with the same limit. -/
theorem Sound.ask (hq : q.Sound) (hcall : call.now.IsReading) :
    (q.ask call).1.Sound ∧ (q.ask call).1.limit = q.limit := by
  cases call with
  | check client now => exact ⟨hq.check hcall client, hq.limit_check hcall client⟩
  | peek client now => exact ⟨hq, rfl⟩

/-- A client notices no call but its own checks. -/
theorem Sound.openUsage?_ask_of_not_check (hq : q.Sound) (hcall : call.now.IsReading)
    (hnot : ¬ call.isCheckOf client = true)
    (hle : call.now.universalTime ≤ later.universalTime) :
    (q.ask call).1.openUsage? client later = q.openUsage? client later := by
  cases call with
  | check other now =>
    -- a check that is not the client's own is that of another one
    have hne : other ≠ client := by simpa [QuotaCall.isCheckOf] using hnot
    exact hq.openUsage?_check_of_ne hcall hne hle
  | peek other now => rfl

/-! ### Many calls -/

/-- After any calls a sound quota is sound, with the same limit. -/
theorem Sound.after (hq : q.Sound) (h : Timeline calls) :
    (q.after calls).Sound ∧ (q.after calls).limit = q.limit := by
  induction calls generalizing q with
  | nil => exact ⟨hq, rfl⟩
  | cons call later ih =>
    obtain ⟨hcall, -, hlater⟩ := QuotaCall.Timeline.cons_iff.mp h
    obtain ⟨hstep, hlimit⟩ := hq.ask hcall
    obtain ⟨hsound, hlimit'⟩ := ih hstep hlater
    exact ⟨hsound, hlimit'.trans hlimit⟩

/-- What holds of a fresh quota after any calls. -/
theorem after_fresh (limit : Int) (h : Timeline calls) :
    ((fresh limit).after calls).Sound ∧ ((fresh limit).after calls).limit = limit :=
  (sound_fresh limit).after h

/-- After any calls of which the last one is a check, all days in the table are open at its
    instant. -/
theorem isOpenAt_of_mem_after {limit : Int} {now : Instant}
    (h : Timeline (calls ++ [.check client now])) {e : String × Usage}
    (he : e ∈ ((fresh limit).after (calls ++ [.check client now])).clients) :
    e.2.isOpenAt now = true := by
  obtain ⟨hearlier, hnow, -⟩ := QuotaCall.Timeline.append_singleton_iff.mp h
  rw [after_append] at he
  exact (after_fresh limit hearlier).1.isOpenAt_of_mem_check hnow he

end Quota

end PlainScan
