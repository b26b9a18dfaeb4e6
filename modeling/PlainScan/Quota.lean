import PlainScan.Json.Basic
import PlainScan.Time.Instant

namespace PlainScan

/-!
# Daily quotas

Every client may scan a number of times a day.  Days end at midnight in the offset of the
reading of the clock with which they were opened.

* `Quota` — the limit, and the clients that have scanned on a day that is not over.
* `Quota.check` — one more scan, allowed or refused.
* `Quota.peek` — how a client stands.
* `QuotaState` — what a client is told.
-/

/-- When the day of a client ends, and how often it has scanned. -/
structure Usage where
  resetAt : Instant
  count : Nat
  deriving DecidableEq, Repr, Inhabited

/-- The limit and the clients with scans on a day that is not over. -/
structure Quota where
  limit : Int
  clients : List (String × Usage) := []
  deriving Repr, Inhabited

/-- How a client stands. -/
structure QuotaState where
  scansToday : Int
  maxScansPerDay : Int
  resetAt : Instant
  deriving DecidableEq, Repr, Inhabited

/-- Why a clock cannot be used: local and absolute readings are mixed, or there is no next
    day. -/
inductive ClockFault where
  | mixedReadings
  | noNextDay
  deriving DecidableEq, Repr, Inhabited

/-- Whether a scan is allowed, and how the client stands then. -/
structure QuotaDecision where
  allowed : Bool
  state : QuotaState
  deriving DecidableEq, Repr, Inhabited

namespace QuotaState

/-- The scans that are left. -/
def remaining (s : QuotaState) : Int := max (s.maxScansPerDay - s.scansToday) 0

/-- Whether a scan is left. -/
def canScan (s : QuotaState) : Bool := 0 < s.remaining

/-- The written form. -/
def toJson (s : QuotaState) : Json :=
  .obj
    [("scansToday", .int s.scansToday), ("maxScansPerDay", .int s.maxScansPerDay),
      ("resetTime", .str s.resetAt.text), ("remaining", .int s.remaining),
      ("canScan", .bool s.canScan)]

end QuotaState

namespace Quota

/-! ### Clients -/

/-- The entry of a client. -/
def usage? (q : Quota) (client : String) : Option Usage :=
  (q.clients.find? fun e => e.1 == client).map (·.2)

/-- Gives a client an entry, in its place or at the end. -/
def setUsage (client : String) (usage : Usage) :
    List (String × Usage) → List (String × Usage)
  | [] => [(client, usage)]
  | (c, old) :: rest =>
    if c == client then (c, usage) :: rest else (c, old) :: setUsage client usage rest

/-! ### Days -/

/-- The entries whose day is not over, unless a reading cannot be compared. -/
def pruned? (now : Instant) : List (String × Usage) → Option (List (String × Usage))
  | [] => some []
  | (client, usage) :: rest =>
    match now.reaches? usage.resetAt, pruned? now rest with
    | some ended, some kept => some (if ended then kept else (client, usage) :: kept)
    | _, _ => none

/-- The current day of a client: its open one, or a fresh one that ends at the next midnight. -/
def current (q : Quota) (client : String) (now : Instant) : Except ClockFault Usage :=
  match now.nextMidnight? with
  | none => .error .noNextDay
  | some midnight =>
    match q.usage? client with
    | none => .ok ⟨midnight, 0⟩
    | some usage =>
      match now.reaches? usage.resetAt with
      | none => .error .mixedReadings
      | some true => .ok ⟨midnight, 0⟩
      | some false => .ok usage

/-- How a client with a usage stands. -/
def stateOf (q : Quota) (usage : Usage) : QuotaState := ⟨usage.count, q.limit, usage.resetAt⟩

/-! ### Questions -/

/-- How a client stands, without any change. -/
def peek (q : Quota) (client : String) (now : Instant) : Except ClockFault QuotaState :=
  match q.current client now with
  | .ok usage => .ok (q.stateOf usage)
  | .error fault => .error fault

/-- Allows or refuses one more scan of a client whose day is known. -/
def consume (q : Quota) (client : String) (usage : Usage) : Quota × QuotaDecision :=
  if q.limit ≤ usage.count then (q, ⟨false, q.stateOf usage⟩)
  else
    let used : Usage := { usage with count := usage.count + 1 }
    ({ q with clients := setUsage client used q.clients }, ⟨true, q.stateOf used⟩)

/-- Forgets the days that are over, then allows or refuses one more scan of a client. -/
def check (q : Quota) (client : String) (now : Instant) :
    Quota × Except ClockFault QuotaDecision :=
  match pruned? now q.clients with
  | none => (q, .error .mixedReadings)
  | some kept =>
    let q := { q with clients := kept }
    match q.current client now with
    | .error fault => (q, .error fault)
    | .ok usage =>
      let (q, decision) := q.consume client usage
      (q, .ok decision)

theorem peek_eq (q : Quota) (client : String) (now : Instant) :
    q.peek client now = (q.current client now).map q.stateOf := by
  unfold peek
  cases q.current client now <;> rfl

end Quota

end PlainScan
