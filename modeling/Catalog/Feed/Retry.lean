import Catalog.Feed.Fault
import Catalog.Time.MailDate

/-!
Requests with bounded retries. A reply that may pass is asked for again after a wait: the one the
server names, or one that doubles with every attempt, and never longer than the policy allows.
Waits are counted in nanoseconds.
-/
namespace Catalog.Feed

open Time

/-- A number that is held in a word: it is `most` or less. -/
structure UpTo (most : Nat) where
  val : Nat
  le : val ≤ most
  deriving DecidableEq, Repr

namespace UpTo

variable {most : Nat}

/-- Of a number that does not fit, the largest that does. -/
def clamped (n : Nat) : UpTo most := ⟨min n most, Nat.min_le_right n most⟩

instance : Coe Nat (UpTo most) := ⟨clamped⟩

instance (n : Nat) : OfNat (UpTo most) n := ⟨clamped n⟩

instance : Mul (UpTo most) := ⟨fun a b => clamped (a.val * b.val)⟩

end UpTo

/-- The longest duration that can be held. -/
def longestDuration : Nat := 18446744073709551615 * nanosPerSecond + 999999999

abbrev Duration := UpTo longestDuration

structure RetryPolicy where
  retries : UpTo 4294967295
  base : Duration
  longest : Duration
  deriving DecidableEq, Repr

namespace RetryPolicy

/-- Half a second doubling up to half a minute, three retries. -/
def standard : RetryPolicy := ⟨3, 500000000, 30 * nanosPerSecond⟩

def factor (attempt : Nat) : Nat := if attempt < 32 then Nat.pow 2 attempt else 4294967295

def backoff (p : RetryPolicy) (attempt : Nat) : Nat :=
  min (p.base * factor attempt : Duration).val p.longest.val

def wait (p : RetryPolicy) (attempt : Nat) (hint : Option Nat) : Nat :=
  match hint with
  | some hint => min hint p.longest.val
  | none => p.backoff attempt

end RetryPolicy

/-- The wait that a server asks for: a number of seconds, or the time until a date, which is none
if the date has passed. -/
def retryAfter? (value : String) (now : Instant) : Option Nat :=
  let cs := Text.trimmed value.toList
  match Text.unsigned? cs with
  | some n => some (n * nanosPerSecond)
  | none => (MailDate.read? cs).map fun t => (t.since now).toNat

/-- Characters that make a header readable. -/
def isHeaderByte (b : UInt8) : Bool := b == 9 || (32 ≤ b && b < 127)

def headerText? (bytes : List UInt8) : Option String :=
  if bytes.all isHeaderByte then some (String.ofList (bytes.map fun b => Char.ofNat b.toNat))
  else none

inductive Reply where
  /-- A success, with the body if it could be read to its end. -/
  | success (url : String) (body : Except String (List UInt8))
  /-- Any other status, with the header in which a server asks for a wait, as it was sent. -/
  | status (url : String) (code : Nat) (retryAfter : Option (List UInt8))
  /-- No connection, or no answer in time. -/
  | unreachable (cause : String)
  /-- A connection that broke. -/
  | broken (cause : String)

/-- Statuses that may pass: server errors, too many requests, request timeout. -/
def isTransientStatus (code : Nat) : Bool :=
  (500 ≤ code && code ≤ 599) || code == 429 || code == 408

namespace Reply

/-- May the next reply be different? -/
def isTransient : Reply → Bool
  | .success _ _ => false
  | .status _ code _ => isTransientStatus code
  | .unreachable _ => true
  | .broken _ => false

def hint? (now : Instant) : Reply → Option Nat
  | .status _ _ (some bytes) => (headerText? bytes).bind fun value => retryAfter? value now
  | _ => none

/-- The answer if this reply is the last word: where the body came from, and the body. -/
def result (requested : String) : Reply → Except Fault (String × List UInt8)
  | .success url (.ok body) => .ok (url, body)
  | .success url (.error cause) => .error (.transport url cause)
  | .status url code _ => .error (.status url code)
  | .unreachable cause => .error (.transport requested cause)
  | .broken cause => .error (.transport requested cause)

end Reply

structure Attempts where
  waits : List Nat
  result : Except Fault (String × List UInt8)

/-- One request was sent, and one more after every wait. -/
def Attempts.requests (a : Attempts) : Nat := a.waits.length + 1

/-- Requests from a given attempt on, with so many retries left; `reply` answers each attempt, and
`clock` is the time when it does. -/
def attemptsFrom (p : RetryPolicy) (clock : Nat → Instant) (url : String) (reply : Nat → Reply) :
    Nat → Nat → Attempts
  | 0, attempt => ⟨[], (reply attempt).result url⟩
  | left + 1, attempt =>
    let r := reply attempt
    if r.isTransient then
      let rest := attemptsFrom p clock url reply left (attempt + 1)
      ⟨p.wait attempt (r.hint? (clock attempt)) :: rest.waits, rest.result⟩
    else ⟨[], r.result url⟩

def requestAt (p : RetryPolicy) (clock : Nat → Instant) (url : String) (reply : Nat → Reply) :
    Attempts :=
  attemptsFrom p clock url reply p.retries.val 0

/-- A request during which the clock stands still. -/
def request (p : RetryPolicy) (now : Instant) (url : String) (reply : Nat → Reply) : Attempts :=
  requestAt p (fun _ => now) url reply

/-- Characters that may stand in the name a client gives itself. -/
def isAgentByte (b : UInt8) : Bool := b == 9 || (32 ≤ b && b != 127)

def isAgentName (name : String) : Bool := name.toUTF8.toList.all isAgentByte

end Catalog.Feed
