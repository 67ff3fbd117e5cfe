import Leasehold.Http.Transport
import Leasehold.Rehearsal.Script

/-!
# Stand-in for the HTTP server

A server in memory.  It looks responses up by method and target of a request,
and it may fail the creation of requests as well.  Beside it stand the files
that a client may read.
-/

set_option autoImplicit false

namespace Leasehold.Rehearsal

open Http (Request Response)

structure Server where
  responses : Script Response := []
  creations : List (Cue Unit) := []

namespace Server

def creation (s : Server) : Server × Option (Cue Unit) :=
  let (cue, creations) := Cue.take s.creations
  ({ s with creations }, cue)

def response (s : Server) (r : Request) : Server × Cue Response :=
  let (cue, responses) := s.responses.take [r.method ++ " " ++ r.url.pathAndQuery, "*"]
  ({ s with responses }, cue.getD { outcome := .ok ⟨404, []⟩ })

end Server

structure Files where
  jwt : Option (List UInt8) := none

def rootDirectories : List String :=
  ["bin", "dev", "etc", "home", "lib", "proc", "root", "run", "sys", "tmp", "usr", "var"]

/-- Whether a path ends at a directory: it leads through no names, or from the root to a directory
that is always there. -/
def namesDirectory (path : String) : Bool :=
  let parts := (Text.splitAt '/' path.toList).map String.ofList
  match parts, parts.filter fun part => part != "" && part != "." with
  | "" :: _ :: _, [name] => name == ".." || rootDirectories.contains name
  | _, steps => path != "" && steps.all (· == "..")

def Files.read (f : Files) (name : String) : Except String String :=
  match if name = "jwt" then f.jwt else none with
  | some bytes =>
      match Utf8.decode? bytes with
      | some text => .ok text
      | none => .error "stream did not contain valid UTF-8"
  | none =>
      if name.toList.contains '\x00' then .error "file name contained an unexpected NUL byte"
      else if namesDirectory name then .error "Is a directory (os error 21)"
      else .error "No such file or directory (os error 2)"

end Leasehold.Rehearsal
