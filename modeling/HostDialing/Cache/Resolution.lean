import HostDialing.Error
import HostDialing.Time.Instant

/-!
# Resolutions

One question to a resolver, with a deadline of its own. An answer in time counts, whatever it is;
an answer that is not there by the deadline is none. The task that asked looks as soon as one of the
two comes, so what is found only behind the deadline came behind it.
-/

namespace HostDialing

/-- What a resolver says about a host. -/
abbrev Answer := Except IoError (List String)

/-- What becomes of an answer; `none` is one that did not come in time. -/
def resolved (host : String) (limit : Duration) :
    Option Answer → Except ResolutionError (List String)
  | none => .error (.timeout host limit)
  | some (.error e) => .error (.lookup host e)
  | some (.ok []) => .error (.noAddresses host)
  | some (.ok addresses) => .ok addresses

/-- The error for a host that a resolver does not know. -/
def noSuchHost (host : String) : IoError := .reported .notFound ("no such host " ++ host)

/-- A question under way. -/
structure Flight where
  call : Nat
  host : String
  started : Instant
  deadline : Instant
deriving DecidableEq

def Flight.start (call : Nat) (host : String) (now : Instant) (limit : Duration) : Flight :=
  ⟨call, host, now, now.deadline limit⟩

/-- What is known of a question when its task looks, where `answer` is what the resolver has said by
then: nothing yet, or the answer that counts. A first look behind the deadline finds an answer that
was not there in time. -/
def Flight.outcome? (f : Flight) (now : Instant) : Option Answer → Option (Option Answer)
  | some answer => if now ≤ f.deadline then some (some answer) else some none
  | none => if f.deadline ≤ now then some none else none

end HostDialing
