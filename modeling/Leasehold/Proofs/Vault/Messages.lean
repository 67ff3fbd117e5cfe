import Leasehold.Proofs.Text.Trim
import Leasehold.Proofs.Vault.Bodies

/-!
# What requests say

A request says which lease is meant and for how long, or who logs in.  The text of
its body is read back as an object with these members and no others
(`writes_body`), whatever stands in them, so that two requests of one kind with
the same body say the same (`bodies_carry_messages`).
-/

set_option autoImplicit false

namespace Leasehold

open Dialogue (Answered Reaches)
open Http (Exchange Query Request)
open Json (Tree ReadsBack Exact)

/-! ## Messages -/

inductive Message where
  | renewal (leaseId : String) (increment : Option Nat)
  | revocation (leaseId : String)
  | login (role jwt : String)
  | empty

namespace Message

def members : Message → List (String × Json)
  | .renewal id (some n) => [("lease_id", .string id), ("increment", .ofNat n)]
  | .renewal id none => [("lease_id", .string id)]
  | .revocation id => [("lease_id", .string id)]
  | .login role jwt => [("role", .string role), ("jwt", .string jwt)]
  | .empty => []

def body (m : Message) : String := Wire.objectText m.members

def Fits : Message → Prop
  | .renewal _ increment => ∀ n ∈ increment, n < UInt64.size
  | _ => True

/-- Two messages of one kind. -/
inductive Alike : Message → Message → Prop
  | renewal (id id' : String) (increment increment' : Option Nat) :
      Alike (.renewal id increment) (.renewal id' increment')
  | revocation (id id' : String) : Alike (.revocation id) (.revocation id')
  | login (role role' jwt jwt' : String) : Alike (.login role jwt) (.login role' jwt')
  | empty : Alike .empty .empty

end Message

/-- The text is a JSON object with exactly these members, which are written in this order, and it
denotes their object. -/
structure Writes (body : String) (members : List (String × Json)) : Prop where
  object : ∃ written, Tree.ofSource? (Utf8.scan (Utf8.ofString body)) = some (.object written) ∧
    Tree.memberValues? (Json.maxDepth - 1) written = some members
  value : Json.ofSource? (Utf8.scan (Utf8.ofString body)) = some (.ofMembers members)

variable {m m' : Message} {body : String} {members members' : List (String × Json)}

theorem Writes.unique (writes : Writes body members) (writes' : Writes body members') :
    members = members' := by
  obtain ⟨written, read, denotes⟩ := writes.object
  obtain ⟨written', read', denotes'⟩ := writes'.object
  cases read.symm.trans read'
  exact Option.some.inj (denotes.symm.trans denotes')

theorem writes_objectText (each : ∀ m ∈ members, Exact (Json.maxDepth - 1) m.2) :
    Writes (Wire.objectText members) members := by
  have read : Tree.ofSource? (Utf8.scan (Utf8.ofString (Wire.objectText members))) =
      some (.object (Json.memberTrees members)) := by
    unfold Utf8.ofString Wire.objectText
    rw [String.toList_ofList, Utf8.scan_encode]
    exact (Json.readsBack_object fun m member => (each m member).readsBack).ofSource?_print
  have denotes : Tree.memberValues? (Json.maxDepth - 1) (Json.memberTrees members) =
      some members :=
    Json.memberValues?_memberTrees fun m member => (each m member).value?_tree
  refine ⟨⟨_, read, denotes⟩, ?_⟩
  have whole : Tree.value? (Json.maxDepth - 1 + 1) (.object (Json.memberTrees members)) =
      some (.ofMembers members) := by
    rw [Tree.value?, denotes, Option.map_some]
  rw [Json.ofSource?, read]
  exact whole

theorem Message.Fits.exact (fits : m.Fits) : ∀ p ∈ m.members, Exact (Json.maxDepth - 1) p.2 := by
  cases m with
  | renewal id increment =>
      cases increment with
      | none => exact List.forall_mem_singleton.mpr (.string id)
      | some n =>
          have small : n < UInt64.size := fits n rfl
          have number : Exact (Json.maxDepth - 1) (Json.ofNat n) :=
            .integer (by omega) (by exact_mod_cast small)
          exact List.forall_mem_cons.mpr ⟨.string id, List.forall_mem_singleton.mpr number⟩
  | revocation id => exact List.forall_mem_singleton.mpr (.string id)
  | login role jwt =>
      exact List.forall_mem_cons.mpr ⟨.string role, List.forall_mem_singleton.mpr (.string jwt)⟩
  | empty => exact nofun

theorem writes_body (fits : m.Fits) : Writes m.body m.members := writes_objectText fits.exact

theorem Message.Alike.eq_of_members (alike : m.Alike m') (same : m.members = m'.members) :
    m = m' := by
  cases alike with
  | renewal id id' increment increment' =>
      cases increment with
      | none =>
          cases increment' with
          | none => simpa [members] using same
          | some n' => simp [members] at same
      | some n =>
          cases increment' with
          | none => simp [members] at same
          | some n' =>
              simp only [members, Json.ofNat, List.cons.injEq, Prod.mk.injEq, true_and, and_true,
                Json.string.injEq, Json.number.injEq, Json.Number.integer.injEq, Int.ofNat_inj]
                at same
              rw [same.1, same.2]
  | revocation id id' => simpa [members] using same
  | login role role' jwt jwt' => simpa [members] using same
  | empty => rfl

theorem Message.body_renewal (id : String) (v : Validity) :
    (Message.renewal id (v.duration?.map fun d => d.nanos / 1000000000)).body =
      Wire.renewBody id v := by
  cases v <;> rw [Message.body, Wire.renewBody] <;> rfl

theorem Message.body_revocation (id : String) :
    (Message.revocation id).body = Wire.revokeBody id := by
  rw [Message.body, Wire.revokeBody, Message.members]

theorem Message.body_login (role jwt : String) :
    (Message.login role jwt).body = Wire.loginBody role jwt := by
  rw [Message.body, Wire.loginBody, Message.members]

theorem Message.body_empty : Message.empty.body = Wire.emptyBody := by
  rw [Message.body, Wire.emptyBody, Message.members]

/-! ## The messages of operations -/

namespace Operation

/-- The message of the request for an operation, if it has one.  A login with a service account
sends what was first read of its file. -/
inductive Conveys :
    Authentication → Operation → List (Answered Query.Answer) → Option Message → Prop
  | lookup (value : String) (told : List (Answered Query.Answer)) :
      Conveys (.token value) .login told none
  | login (role jwtPath mount jwt core : String) (told : List (Answered Query.Answer))
      (begins : told.head? = some ⟨.readText jwtPath, .ok jwt⟩)
      (stripped : Text.Stripped jwt core) :
      Conveys (.kubernetes role jwtPath mount) .login told (some (.login role core))
  | renewToken (auth : Authentication) (t : Token) (told : List (Answered Query.Answer)) :
      Conveys auth (.renewToken t) told (some .empty)
  | read (auth : Authentication) (token path : String) (told : List (Answered Query.Answer)) :
      Conveys auth (.read token path) told none
  | renewLease (auth : Authentication) (token : String) (l : Lease)
      (told : List (Answered Query.Answer)) :
      Conveys auth (.renewLease token l) told
        (some (.renewal l.id (l.validity.duration?.map fun d => d.nanos / 1000000000)))
  | revokeLease (auth : Authentication) (token leaseId : String)
      (told : List (Answered Query.Answer)) :
      Conveys auth (.revokeLease token leaseId) told (some (.revocation leaseId))

def Fits : Operation → Prop
  | .renewLease _ l => ∀ d ∈ l.validity.duration?, d.secs < UInt64.size
  | _ => True

variable {op : Operation} {auth : Authentication} {told : List (Answered Query.Answer)}
  {said said' : Option Message}

theorem Conveys.unique (conveys : op.Conveys auth told said)
    (conveys' : op.Conveys auth told said') : said = said' := by
  cases conveys with
  | login role jwtPath mount jwt core told begins stripped =>
      cases conveys' with
      | login _ _ _ _ _ _ begins' stripped' =>
          cases begins.symm.trans begins'
          rw [← Text.stripped_iff.mp stripped, ← Text.stripped_iff.mp stripped']
  | lookup => cases conveys'; rfl
  | renewToken => cases conveys'; rfl
  | read => cases conveys'; rfl
  | renewLease => cases conveys'; rfl
  | revokeLease => cases conveys'; rfl

theorem Conveys.fits (conveys : op.Conveys auth told said) (fits : op.Fits) :
    ∀ m ∈ said, m.Fits := by
  rintro m ⟨⟩
  cases conveys with
  | login => trivial
  | renewToken => trivial
  | revokeLease => trivial
  | renewLease auth token l told =>
      rintro n increment
      obtain ⟨d, finite, rfl⟩ := Option.map_eq_some_iff.mp increment
      exact fits d finite

end Operation

def Carries : Option String → Option Message → Prop
  | some body, some m => Writes body m.members
  | none, none => True
  | _, _ => False

theorem carries_body {said : Option Message} (fits : ∀ m ∈ said, m.Fits) :
    Carries (said.map Message.body) said := by
  cases said with
  | none => trivial
  | some m => exact writes_body (fits m rfl)

namespace Client

variable {α : Type} {policy : RetryPolicy} {c : Client} {call : ApiCall}
  {told : List (Answered Query.Answer)} {left : Exchange (Except VaultError α)}

theorem Sends.bodies (sends : c.Sends policy call told left) :
    ∀ sent ∈ executions told, sent.1.body = call.body := by
  rcases sends with ⟨silent, -⟩ | ⟨request, outcomes, executes⟩
  · rw [silent]
    exact List.forall_mem_nil _
  · rw [executes.executed]
    rintro sent member
    obtain ⟨outcome, -, rfl⟩ := List.mem_map.mp member
    exact executes.composed.body

theorem Sends.executions_ne_nil (sends : c.Sends policy call told left) :
    ∀ a, left = .done (.ok a) → executions told ≠ [] := by
  rintro a rfl
  rcases sends with ⟨-, failed⟩ | ⟨request, outcomes, executes⟩
  · obtain ⟨⟨e, ⟨⟩⟩, -⟩ := failed _ rfl
  · rw [executes.executed]
    exact mt List.map_eq_nil_iff.mp executes.some

/-- An operation executes only requests for its message, and has no result without one. -/
theorem messages_of_reaches (c : Client) (policy : RetryPolicy) (op : Operation)
    {left : Exchange (Except VaultError op.Result)}
    (reached : ((c.underPolicy policy).perform op).run.Reaches told left) :
    (∀ sent ∈ executions told, ∃ said, op.Conveys c.authentication told said ∧
        sent.1.body = said.map Message.body) ∧
      ∀ a, left = .done (.ok a) → executions told ≠ [] := by
  have found {call : ApiCall} {said : Option Message}
      (conveys : op.Conveys c.authentication told said) (sends : c.Sends policy call told left)
      (body : said.map Message.body = call.body) :
      (∀ sent ∈ executions told, ∃ said, op.Conveys c.authentication told said ∧
          sent.1.body = said.map Message.body) ∧
        ∀ a, left = .done (.ok a) → executions told ≠ [] :=
    ⟨fun sent member => ⟨said, conveys, (sends.bodies sent member).trans body.symm⟩,
      sends.executions_ne_nil⟩
  cases op with
  | login =>
      unfold perform login at reached
      have same : (c.underPolicy policy).authentication = c.authentication := rfl
      rw [same] at reached
      cases auth : c.authentication with
      | token value =>
          rw [auth] at reached found
          exact found (.lookup value told)
            (alwaysSends_lookupSelf c policy value told left reached) rfl
      | kubernetes role jwtPath mount =>
          rw [auth] at reached found
          rcases kubernetesLogin_begins reached with ⟨silent, failed⟩ | ⟨jwt, begins, sends⟩
          · rw [silent]
            refine ⟨List.forall_mem_nil _, fun a ended => ?_⟩
            obtain ⟨⟨e, same⟩, -⟩ := failed _ ended
            cases same
          · exact found (.login role jwtPath mount jwt _ told begins (Text.stripped_iff.mpr rfl))
              sends (congrArg some (Message.body_login role _))
  | renewToken t =>
      exact found (.renewToken _ t told) (alwaysSends_renewToken c policy t told left reached)
        (congrArg some Message.body_empty)
  | read token path =>
      exact found (.read _ token path told)
        (alwaysSends_read c policy token path told left reached) rfl
  | renewLease token l =>
      cases renewable : l.renewable with
      | true =>
          exact found (.renewLease _ token l told)
            (alwaysSends_renewLease c policy token renewable told left reached)
            (congrArg some (Message.body_renewal l.id l.validity))
      | false =>
          unfold perform at reached
          rw [renewLease_refuses _ token renewable] at reached
          obtain ⟨rfl, rfl⟩ := Dialogue.reaches_done reached
          exact ⟨List.forall_mem_nil _, nofun⟩
  | revokeLease token leaseId =>
      exact found (.revokeLease _ token leaseId told)
        (alwaysSends_revokeLease c policy token leaseId told left reached)
        (congrArg some (Message.body_revocation leaseId))

/-- A request that some client executes for an operation with this message. -/
inductive Sent (m : Message) (request : Request) : Prop
  | intro (c : Client) (policy : RetryPolicy) (op : Operation)
      (told : List (Answered Query.Answer)) (left : Exchange (Except VaultError op.Result))
      (outcome : Except VaultError Http.Response) (fits : op.Fits)
      (reached : ((c.underPolicy policy).perform op).run.Reaches told left)
      (executed : (request, outcome) ∈ executions told)
      (conveys : op.Conveys c.authentication told (some m)) : Sent m request

theorem Sent.body_eq {m : Message} {request : Request} (sent : Sent m request) :
    m.Fits ∧ request.body = some m.body := by
  obtain ⟨c, policy, op, told, left, outcome, fits, reached, executed, conveys⟩ := sent
  obtain ⟨said, conveys', body⟩ := (messages_of_reaches c policy op reached).1 _ executed
  cases conveys.unique conveys'
  exact ⟨conveys.fits fits m rfl, body⟩

/-- Whatever the world answers, the bodies of the requests that an operation executes are read back
as its message, and requests of one kind have one body only if they say the same. -/
theorem bodies_carry_messages :
    (∀ (c : Client) (policy : RetryPolicy) (op : Operation) (told : List (Answered Query.Answer))
        (left : Exchange (Except VaultError op.Result)), op.Fits →
      ((c.underPolicy policy).perform op).run.Reaches told left →
      (∀ sent ∈ executions told, ∃ said,
        op.Conveys c.authentication told said ∧ Carries sent.1.body said) ∧
      ∀ a, left = .done (.ok a) → executions told ≠ []) ∧
    ∀ (m m' : Message) (request request' : Request), Sent m request → Sent m' request' →
      m.Alike m' → request.body = request'.body → m = m' := by
  constructor
  · intro c policy op told left fits reached
    obtain ⟨conveys, some⟩ := messages_of_reaches c policy op reached
    refine ⟨fun sent member => ?_, some⟩
    obtain ⟨said, conveys, body⟩ := conveys sent member
    exact ⟨said, conveys, body ▸ carries_body (conveys.fits fits)⟩
  · intro m m' request request' sent sent' alike same
    obtain ⟨fits, body⟩ := sent.body_eq
    obtain ⟨fits', body'⟩ := sent'.body_eq
    have one : m.body = m'.body := Option.some.inj (body.symm.trans (same.trans body'))
    have writes : Writes m.body m'.members := one ▸ writes_body fits'
    exact alike.eq_of_members ((writes_body fits).unique writes)

def quotedLease : Lease where
  id := "db/\"é\\\n\x01😀"
  path := "db"
  data := .null
  issued := ⟨0⟩
  validity := .finite ⟨90500000000⟩
  renewable := true

theorem quotedLease_reaches :
    ∃ told left, ((ofTeam.underPolicy {}).renewLease "s.token" quotedLease).run.Reaches told left ∧
      executions told ≠ [] := by
  have composed : ofTeam.Composes ⟨"PUT", "sys/leases/renew", some "s.token",
      some (Wire.renewBody quotedLease.id quotedLease.validity)⟩ _ :=
    ofTeam_composes _ ["sys", "leases", "renew"] (eq_ok_of_toOption (by decide +kernel)) (by decide)
  have reached : ((ofTeam.underPolicy {}).renewLease "s.token" quotedLease).run.Reaches _ _ :=
    reaches_decode composed {} (exact_leaseRenewal "a" 0) (renewal?_leaseRenewal "a" 0) _ ⟨0⟩
  exact ⟨_, _, reached, List.cons_ne_nil _ _⟩

def loginTold (jwt : String) : List (Answered Query.Answer) :=
  [⟨.readText "/var/run/token", .ok jwt⟩, created "POST" (loginRequest jwt).url (.ok ()),
    executed (loginRequest jwt) (.ok ⟨200, []⟩)]

theorem loginTold_reaches (jwt : String) :
    ∃ left, (inCluster.underPolicy {}).login.run.Reaches (loginTold jwt) left := by
  have answered := reaches_send (loginRequest_composed jwt) {} (r := ⟨200, []⟩) rfl
  exact ⟨_, Call.reaches_seq (readText_reaches_ok "/var/run/token" jwt)
    (Call.reaches_seq (.here _) (Call.reaches_seq answered (.here _)))⟩

theorem sent_loginRequest (jwt : String) :
    Sent (.login "app" (Text.trimmed jwt)) (loginRequest jwt) := by
  obtain ⟨left, reached⟩ := loginTold_reaches jwt
  refine .intro inCluster {} .login (loginTold jwt) left (.ok ⟨200, []⟩) trivial reached ?_ ?_
  · exact List.mem_cons_self
  · exact .login "app" "/var/run/token" "kubernetes" jwt _ _ rfl (Text.stripped_iff.mpr rfl)

/-- The id that needs escapes is read back from the body, and the blanks around a token of a service
account do not count. -/
theorem bodies_carry_messages_ofTeam :
    (∃ told left,
      ((ofTeam.underPolicy {}).perform (.renewLease "s.token" quotedLease)).run.Reaches told left ∧
      executions told ≠ [] ∧
      ∀ sent ∈ executions told, ∃ said,
        Operation.Conveys ofTeam.authentication (.renewLease "s.token" quotedLease) told said ∧
          Carries sent.1.body said) ∧
    ∃ m m' request request', Sent m request ∧ Sent m' request' ∧ m.Alike m' ∧
      request.body = request'.body ∧ m = m' := by
  obtain ⟨parsed, determined⟩ := bodies_carry_messages
  constructor
  · obtain ⟨told, left, reached, some⟩ := quotedLease_reaches
    have fits : (Operation.renewLease "s.token" quotedLease).Fits := by
      rintro d ⟨⟩
      decide
    exact ⟨told, left, reached, some,
      (parsed ofTeam {} (.renewLease "s.token" quotedLease) told left fits reached).1⟩
  · have core : Text.trimmed "\té\"\n" = Text.trimmed "é\"" := by decide
    have sent := sent_loginRequest "\té\"\n"
    have sent' := sent_loginRequest "é\""
    have alike := Message.Alike.login "app" "app" (Text.trimmed "\té\"\n") (Text.trimmed "é\"")
    have same : (loginRequest "\té\"\n").body = (loginRequest "é\"").body := by
      rw [loginRequest, core, loginRequest]
    exact ⟨_, _, _, _, sent, sent', alike, same, determined _ _ _ _ sent sent' alike same⟩

end Client

end Leasehold
