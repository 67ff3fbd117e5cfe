import Leasehold.Http.Agent
import Leasehold.Http.Transport
import Leasehold.Timeline

/-!
# Stand-in for the other end of a connection

A socket that gives one reply after another, whatever it is asked, and keeps
what it was asked.  It closes a connection behind its reply and understands no
encryption.  The last reply stays; without replies no connection comes about.
-/

set_option autoImplicit false

namespace Leasehold.Rehearsal

open Http (Query)

/-- A response to send: the length announced for its body exceeds the body by `missing`. -/
structure ScriptedResponse where
  status : Nat := 200
  headers : List (String × String) := []
  body : List UInt8 := []
  missing : Nat := 0
  deriving DecidableEq, Repr

namespace ScriptedResponse

def head (r : ScriptedResponse) : List String :=
  ("HTTP/1.1 " ++ toString r.status) ::
    ("content-length: " ++ toString (r.body.length + r.missing)) ::
      r.headers.map fun h => h.1 ++ ": " ++ h.2

def octets (r : ScriptedResponse) : List UInt8 :=
  (r.head.flatMap fun line => Utf8.ofString line ++ [13, 10]) ++ 13 :: 10 :: r.body

end ScriptedResponse

inductive WireReply where
  | respond (r : ScriptedResponse)
  | fail

structure Socket where
  replies : List WireReply := []
  seen : List Http.WireRequest := []

namespace Socket

/-- A message as it arrives: white space around the value of a field is not part of it. -/
def arrived (message : Http.WireRequest) : Http.WireRequest :=
  { message with headers := message.headers.map fun h => (h.1, Text.trimmed h.2) }

def serve (s : Socket) (message : Http.WireRequest) : Socket × Option (List UInt8) :=
  match s.replies, message.url.scheme == "http" with
  | reply :: rest, true =>
      ({ replies := if rest.isEmpty then s.replies else rest, seen := s.seen ++ [arrived message] },
        match reply with
        | .respond r => some r.octets
        | .fail => none)
  | _, _ => (s, none)

def answer (agent : Http.Agent) : (q : Query) → Activity Socket Empty (Query.Answer q)
  | .create _ url => return Http.Agent.create url
  | .execute request =>
      Dialogue.through (fun message => Activity.act fun _ s => s.serve message)
        (agent.execute request)
  | .clock => Activity.act fun now s => (s, now)
  | .readText _ => return .error "No such file or directory (os error 2)"

end Socket

end Leasehold.Rehearsal
