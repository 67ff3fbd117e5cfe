import Leasehold.Dictionary
import Leasehold.Error

/-!
# Scripts

What a scripted collaborator answers.  A script is a list of cues; every call
takes the first one, except that the last one stays for all calls to come.
-/

set_option autoImplicit false

namespace Leasehold.Rehearsal

structure Cue (α : Type) where
  delay : Duration := .zero
  outcome : Except VaultError α

namespace Cue

variable {α β : Type}

def unscripted : Cue α := { outcome := .error (.unavailable "unscripted") }

def map (f : α → β) (c : Cue α) : Cue β := { delay := c.delay, outcome := c.outcome.map f }

def take : List (Cue α) → Option (Cue α) × List (Cue α)
  | [] => (none, [])
  | [last] => (some last, [last])
  | first :: rest => (some first, rest)

end Cue

abbrev Script (α : Type) := Dictionary (List (Cue α))

/-- The cue that a call takes under the first of its keys that has one. -/
def Script.take {α : Type} (script : Script α) : List String → Option (Cue α) × Script α
  | [] => (none, script)
  | key :: others =>
      match Cue.take ((Dictionary.get? key script).getD []) with
      | (some cue, rest) => (some cue, Dictionary.put key rest script)
      | (none, _) => Script.take script others

end Leasehold.Rehearsal
