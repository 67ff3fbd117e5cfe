import Leasehold.Proofs.Grants
import Leasehold.Proofs.Json.RoundTrip
import Leasehold.Rehearsal.Fixtures

/-!
# The bodies of responses

What the server writes into the body of a response is what the client reads out
of it: the text of the body is read as its tree, and the fields of the tree as
the values of the members (`tree?_render`, `fields?_ofMembers`).  An operation
whose request is answered with a body asks for nothing but the time any more,
and ends with what the body says (`decodes_bodies`).
-/

set_option autoImplicit false

namespace Leasehold

open Dialogue (Answered Reaches)
open Http (Exchange Query Response Transport)
open Json (Tree Exact orDefault)
open Rehearsal (Sample.texts Sample.lookupSelf Sample.auth Sample.leasedRead Sample.storedRead
  Sample.leaseRenewal)

/-! ## Trees of bodies -/

namespace Json

variable {room : Nat} {v : Json} {written : List (String × Json)}

theorem tree?_render (exact : Exact room v) (status : Nat) :
    Response.tree? ⟨status, Utf8.ofString v.render⟩ = some v.tree := by
  unfold Response.tree? Utf8.ofString render
  rw [String.toList_ofList, Utf8.scan_encode]
  exact exact.readsBack.ofSource?_print

theorem exact_ofMembers (each : ∀ m ∈ written, Exact room m.2) :
    Exact (room + 1) (ofMembers written) :=
  .object (.ofList written) fun m member => each m (Dictionary.mem_ofList member)

theorem exact_texts (ts : List String) : Exact (room + 1) (Sample.texts ts) := by
  refine .array fun v member => ?_
  obtain ⟨t, _, rfl⟩ := List.mem_map.mp member
  exact .string t

theorem exact_ofNat (n : UInt64) : Exact room (ofNat n.toNat) := by
  have size := n.toNat_lt
  exact .integer (by omega) (by exact_mod_cast size)

theorem fields?_ofMembers (written : List (String × Json)) (names : List String) :
    (tree (ofMembers written)).fields? names =
      some (names.map fun n => (Dictionary.get? n (Dictionary.ofList written)).map tree) :=
  fields?_tree (.ofList written) names

@[simp] theorem text?_string (s : String) : (tree (.string s)).text? = some s := rfl

@[simp] theorem truth?_bool (b : Bool) : (tree (.bool b)).truth? = some b := rfl

@[simp] theorem natural?_ofNat (n : UInt64) : (tree (ofNat n.toNat)).natural? = some n.toNat := by
  have size := n.toNat_lt
  have number := number?_integerNumeral (i := n.toNat) (by omega) (by exact_mod_cast size)
  simp only [ofNat, tree, Tree.natural?, number]
  simp

end Json

/-! ## What is read of the samples -/

section Samples

variable (id : String) (ttl : UInt64) (renewable : Bool)

theorem exact_lookupSelf : Exact 3 (Sample.lookupSelf ttl.toNat renewable) := by
  refine Json.exact_ofMembers ?_
  simp only [List.forall_mem_cons, List.not_mem_nil, false_implies, implies_true, and_true]
  refine ⟨.string _, Json.exact_ofMembers ?_⟩
  simp only [List.forall_mem_cons, List.not_mem_nil, false_implies, implies_true, and_true]
  exact ⟨.string _, Json.exact_texts _, Json.exact_ofNat ttl, .bool renewable⟩

theorem exact_auth : Exact 3 (Sample.auth id ttl.toNat renewable) := by
  refine Json.exact_ofMembers ?_
  simp only [List.forall_mem_cons, List.not_mem_nil, false_implies, implies_true, and_true]
  refine ⟨.string _, Json.exact_ofMembers ?_⟩
  simp only [List.forall_mem_cons, List.not_mem_nil, false_implies, implies_true, and_true]
  exact ⟨.string id, .string _, Json.exact_texts _, Json.exact_ofNat ttl, .bool renewable⟩

theorem lookup?_lookupSelf :
    Wire.lookup? (Json.tree (Sample.lookupSelf ttl.toNat renewable)) =
      some ⟨ttl.toNat, renewable⟩ := by
  simp [Wire.lookup?, Wire.required?, Sample.lookupSelf, Json.fields?_ofMembers,
    Dictionary.ofList, Dictionary.get?_put_of_ne, orDefault]

theorem auth?_auth :
    Wire.auth? (Json.tree (Sample.auth id ttl.toNat renewable)) =
      some ⟨id, ttl.toNat, renewable⟩ := by
  simp [Wire.auth?, Wire.required?, Wire.Grant.ofTree?, Sample.auth, Json.fields?_ofMembers,
    Dictionary.ofList, Dictionary.get?_put_of_ne, orDefault]

theorem renewal?_leaseRenewal :
    Wire.renewal? (Json.tree (Sample.leaseRenewal id ttl.toNat)) = some ⟨id, ttl.toNat, true⟩ := by
  simp [Wire.renewal?, Sample.leaseRenewal, Json.fields?_ofMembers, Dictionary.ofList,
    Dictionary.get?_put_of_ne, orDefault]

theorem exact_leaseRenewal : Exact 1 (Sample.leaseRenewal id ttl.toNat) := by
  refine Json.exact_ofMembers ?_
  simp only [List.forall_mem_cons, List.not_mem_nil, false_implies, implies_true, and_true]
  exact ⟨.string id, Json.exact_ofNat ttl, .bool true⟩

/-- What is read of a body that has a payload below what says whether it is leased. -/
theorem read?_members {room : Nat} {data : Json} (exact : Exact room data) (shallow : room ≤ 126)
    (first : String × Json) (other : first.1 = "request_id") :
    Wire.read? (Json.tree (.ofMembers [first, ("lease_id", .string id),
        ("lease_duration", .ofNat ttl.toNat), ("renewable", .bool renewable), ("data", data)])) =
      some ⟨id, ttl.toNat, renewable, data⟩ := by
  obtain ⟨name, value⟩ := first
  cases other
  have payload : Tree.value? 126 data.tree = some data := (exact.mono shallow).value?_tree
  simp [Wire.read?, Json.fields?_ofMembers, Dictionary.ofList, Dictionary.get?_put_of_ne,
    orDefault, Json.maxDepth, payload]

theorem exact_leasedRead : ∃ data,
    (Sample.leasedRead id ttl.toNat renewable).member? "data" = some data ∧
      Exact 2 (Sample.leasedRead id ttl.toNat renewable) ∧
      Wire.read? (Json.tree (Sample.leasedRead id ttl.toNat renewable)) =
        some ⟨id, ttl.toNat, renewable, data⟩ := by
  have payload : Exact 1 (.ofMembers
      [("username", .string "v-app-readonly-x1y2"), ("password", .string "A1a-generated")]) := by
    refine Json.exact_ofMembers ?_
    simp only [List.forall_mem_cons, List.not_mem_nil, false_implies, implies_true, and_true]
    exact ⟨.string _, .string _⟩
  refine ⟨_, ?_, Json.exact_ofMembers ?_, read?_members id ttl renewable payload (by decide) _ rfl⟩
  · simp [Sample.leasedRead, Json.member?, Json.ofMembers, Dictionary.ofList]
  · simp only [List.forall_mem_cons, List.not_mem_nil, false_implies, implies_true, and_true]
    exact ⟨.string _, .string id, Json.exact_ofNat ttl, .bool renewable, payload⟩

/-- A read of stored values nests them three levels deeper, which leaves them room for a hundred. -/
theorem exact_storedRead {d : Json} (exact : Exact 100 d) : ∃ data,
    (Sample.storedRead d).member? "data" = some data ∧ data.member? "data" = some d ∧
      Exact 102 (Sample.storedRead d) ∧
      Wire.read? (Json.tree (Sample.storedRead d)) = some ⟨"", 0, false, data⟩ := by
  have payload : Exact 101 (.ofMembers
      [("data", d), ("metadata", .ofMembers [("version", .ofNat 1)])]) := by
    have version : Exact 99 (.ofNat 1) := Json.exact_ofNat 1
    refine Json.exact_ofMembers ?_
    simp only [List.forall_mem_cons, List.not_mem_nil, false_implies, implies_true, and_true]
    refine ⟨exact, Json.exact_ofMembers ?_⟩
    simpa only [List.forall_mem_cons, List.not_mem_nil, false_implies, implies_true, and_true]
  have read := read?_members "" 0 false payload (by decide)
    ("request_id", .string "8f3b2c1e-kv") rfl
  refine ⟨_, ?_, ?_, Json.exact_ofMembers ?_, read⟩
  · simp [Sample.storedRead, Json.member?, Json.ofMembers, Dictionary.ofList]
  · simp [Json.member?, Json.ofMembers, Dictionary.ofList, Dictionary.get?_put_of_ne]
  · simp only [List.forall_mem_cons, List.not_mem_nil, false_implies, implies_true, and_true]
    exact ⟨.string _, .string "", Json.exact_ofNat 0, .bool false, payload⟩

end Samples

/-! ## Operations that are answered -/

def AnsweredWith (told : List (Answered Query.Answer)) (body : Json) : Prop :=
  ∃ request, (executions told).getLast? = some (request, .ok ⟨200, Utf8.ofString body.render⟩)

/-- Nothing is left to ask but the time, and that leads to a result; or it has done so. -/
def Concludes {α : Type} (told : List (Answered Query.Answer))
    (left : Exchange (Except VaultError α)) (result : Instant → α) : Prop :=
  left = .ask .clock (fun now => .done (.ok (result now))) ∨
    ∃ now : Instant, told.getLast? = some ⟨.clock, now⟩ ∧ left = .done (.ok (result now))

namespace Concludes

variable {α : Type} {left : Exchange (Except VaultError α)} {result : Instant → α}

theorem of_clock {told : List (Answered Query.Answer)}
    (reached : (Client.clock >>= fun now => pure (result now) : Call α).run.Reaches told left) :
    Concludes told left result := by
  rw [Call.run_bind] at reached
  cases reached with
  | here => exact Or.inl rfl
  | @ask _ now _ _ _ later =>
      obtain ⟨rfl, rfl⟩ := Dialogue.reaches_done later
      exact Or.inr ⟨now, rfl, rfl⟩

theorem behind {first last : List (Answered Query.Answer)}
    (concludes : Concludes last left result) : Concludes (first ++ last) left result := by
  rcases concludes with asks | ⟨now, told, ended⟩
  · exact Or.inl asks
  · exact Or.inr ⟨now, by rw [List.getLast?_append, told, Option.some_or], ended⟩

end Concludes

namespace Call

variable {α : Type}

theorem reaches_seq {β : Type} {x : Call α} {f : α → Call β} {a : α}
    {first last : List (Answered Query.Answer)} {left : Exchange (Except VaultError β)}
    (before : x.run.Reaches first (.done (.ok a))) (after : (f a).run.Reaches last left) :
    (x >>= f).run.Reaches (first ++ last) left := by
  rw [run_bind]
  exact before.bind after

/-- Once the last request is answered with a success, the call has ended with the response. -/
def Responds (x : Call Response) : Prop :=
  ∀ told left request r, x.run.Reaches told left →
    (executions told).getLast? = some (request, .ok r) → r.success = true →
    left = .done (.ok r)

theorem Quiet.responds {x : Call α} {f : α → Call Response} (quiet : x.Quiet)
    (next : ∀ a, (f a).Responds) : (x >>= f).Responds := by
  intro told left request r reached answered success
  rcases reaches_bind reached with
    ⟨rest, before, -, -⟩ | ⟨e, before, -⟩ | ⟨first, a, last, rfl, before, after⟩
  · simp [quiet told rest before] at answered
  · simp [quiet told _ before] at answered
  · rw [executions_append, quiet first _ before, List.nil_append] at answered
    exact next a last left request r after answered success

/-- Behind the response comes what is made of it. -/
theorem Responds.bind {x : Call Response} {f : Response → Call α} (responds : x.Responds)
    (quiet : ∀ r, (f r).Quiet) {told : List (Answered Query.Answer)}
    {left : Exchange (Except VaultError α)} (reached : (x >>= f).run.Reaches told left)
    {request : Http.Request} {r : Response}
    (answered : (executions told).getLast? = some (request, .ok r)) (success : r.success = true) :
    ∃ first last, told = first ++ last ∧ (f r).run.Reaches last left := by
  rcases reaches_bind reached with
    ⟨rest, before, more, -⟩ | ⟨e, before, -⟩ | ⟨first, a, last, rfl, before, after⟩
  · exact absurd (responds told rest request r before answered success) (more _)
  · cases responds told _ request r before answered success
  · rw [executions_append, quiet a last left after, List.append_nil] at answered
    cases responds first _ request r before answered success
    exact ⟨first, last, rfl, after⟩

end Call

namespace Client

variable {α : Type} {c : Client} {policy : RetryPolicy} {told : List (Answered Query.Answer)}

theorem statusError?_of_success (path : String) {r : Response} (success : r.success = true) :
    statusError? path r = none := by
  simp [statusError?, success]

/-- A request that has been answered with a success has not failed, and is not made again. -/
theorem responds_execute (policy : RetryPolicy) (request : Http.Request) (path : String) :
    Call.Responds (do
      let response ← ExceptT.mk ((Transport.plain.retrying policy).execute request)
      match statusError? path response with
      | some e => throw e
      | none => return response) := by
  intro told left sent r reached answered success
  rcases Call.reaches_bind reached with
    ⟨rest, before, more, -⟩ | ⟨e, before, -⟩ | ⟨first, response, last, rfl, before, after⟩
  · obtain ⟨outcomes, rfl, repeated⟩ :=
      RetryPolicy.run_open (asksOnce_execute request) policy before more
    rw [executions_executed, List.getLast?_map] at answered
    obtain ⟨o, ends, same⟩ := Option.map_eq_some_iff.mp answered
    cases same
    cases repeated _ (List.mem_of_getLast? ends)
  · obtain ⟨outcomes, rfl, -, ends⟩ :=
      RetryPolicy.run_reaches (asksOnce_execute request) policy before
    rw [executions_executed, List.getLast?_map, (ends _ rfl).last] at answered
    cases answered
  · obtain ⟨outcomes, rfl, -, ends⟩ :=
      RetryPolicy.run_reaches (asksOnce_execute request) policy before
    -- Nothing is executed any more behind the response, whatever its status says.
    have settled : last = [] ∧
        left = .done ((statusError? path response).elim (.ok response) .error) := by
      cases signals : statusError? path response <;> rw [signals] at after <;>
        exact Dialogue.reaches_done after
    obtain ⟨rfl, rfl⟩ := settled
    rw [List.append_nil, executions_executed, List.getLast?_map, (ends _ rfl).last] at answered
    cases answered
    rw [statusError?_of_success path success]
    rfl

theorem responds_send (c : Client) (policy : RetryPolicy) (method path : String)
    (token body : Option String) :
    ((c.underPolicy policy).send method path token body).Responds := by
  unfold send
  rw [underPolicy_transport]
  refine (quiet_liftExcept _).responds fun url => ?_
  refine (quiet_create policy method url).responds fun _ => ?_
  refine (quiet_liftExcept _).responds fun headers => ?_
  exact responds_execute policy { method, url, headers, body } path

theorem decode_render {room : Nat} {body : Json} {read : Tree → Option α} {a : α}
    (exact : Exact room body) (found : read body.tree = some a) (status : Nat) :
    decode read ⟨status, Utf8.ofString body.render⟩ = pure a := by
  unfold decode
  rw [Json.tree?_render exact, Option.bind_some, found]

theorem concludes_decode {β : Type} {method path : String} {token sent : Option String}
    {read : Tree → Option α} {build : α → Instant → β} {left : Exchange (Except VaultError β)}
    (reached : (do
      let response ← (c.underPolicy policy).send method path token sent
      let part ← decode read response
      let now ← clock
      return build part now : Call β).run.Reaches told left)
    {room : Nat} {body : Json} {a : α} (answered : AnsweredWith told body)
    (exact : Exact room body) (found : read body.tree = some a) :
    Concludes told left (build a) := by
  obtain ⟨request, answered⟩ := answered
  have quiet (r : Response) : Call.Quiet (do
      let part ← decode read r
      let now ← clock
      return build part now : Call β) :=
    (quiet_decode read r).bind fun _ => quiet_clock.bind fun _ => Call.quiet_pure _
  obtain ⟨first, last, rfl, after⟩ :=
    (responds_send c policy method path token sent).bind quiet reached answered rfl
  rw [decode_render exact found, Call.pure_bind] at after
  exact (Concludes.of_clock after).behind

theorem liftExcept_ok {β : Type} (b : β) : send.liftExcept (.ok b) = pure b := rfl

theorem reaches_send {call : ApiCall} {request : Http.Request} (composed : c.Composes call request)
    (policy : RetryPolicy) {r : Response} (success : r.success = true) :
    ((c.underPolicy policy).send call.method call.path call.token call.body).run.Reaches
      [created call.method request.url (.ok ()), executed request (.ok r)] (.done (.ok r)) := by
  have url : (c.underPolicy policy).endpoint.apiUrl call.path = .ok request.url := composed.url
  have headers : (c.underPolicy policy).headers call.token = .ok request.headers := by
    rw [composed.headers]
    exact headers_of_valid composed.token composed.namespace_
  have creates : ((Transport.plain.retrying policy).create call.method request.url).Reaches
      [created call.method request.url (.ok ())] (.done (.ok ())) :=
    RetryPolicy.run_succeeds policy (.ask (.here _))
  have executes : ((Transport.plain.retrying policy).execute
      ⟨call.method, request.url, request.headers, call.body⟩).Reaches
      [executed request (.ok r)] (.done (.ok r)) := by
    rw [← composed.method, ← composed.body]
    exact RetryPolicy.run_succeeds policy (.ask (.here _))
  unfold send
  rw [underPolicy_transport, url, headers]
  simp only [liftExcept_ok, Call.pure_bind]
  have answered := Call.reaches_seq (x := ExceptT.mk _)
    (f := fun response => match statusError? call.path response with
      | some e => throw e
      | none => return response) executes
    (by rw [statusError?_of_success call.path success]; exact .here _)
  exact Call.reaches_seq (x := ExceptT.mk _) creates answered

theorem reaches_decode {α β : Type} {call : ApiCall} {request : Http.Request}
    (composed : c.Composes call request) (policy : RetryPolicy) {room : Nat} {body : Json} {a : α}
    (exact : Exact room body) {read : Tree → Option α} (found : read body.tree = some a)
    (build : α → Instant → β) (now : Instant) :
    (do
      let response ←
        (c.underPolicy policy).send call.method call.path call.token call.body
      let part ← decode read response
      let now ← clock
      return build part now : Call β).run.Reaches
      [created call.method request.url (.ok ()),
        executed request (.ok ⟨200, Utf8.ofString body.render⟩), ⟨.clock, now⟩]
      (.done (.ok (build a now))) := by
  refine Call.reaches_seq (reaches_send composed policy rfl) ?_
  rw [decode_render exact found, Call.pure_bind]
  exact .ask (.here _)

/-! ## What the operations make of the bodies -/

theorem ofTtlSecs_toNat (ttl : UInt64) :
    Validity.ofTtlSecs ttl.toNat = if ttl = 0 then .infinite else .finite (.ofSecs ttl.toNat) := by
  have same : ttl.toNat = 0 ↔ ttl = 0 := by rw [← UInt64.toNat_inj, UInt64.toNat_zero]
  simp only [Validity.ofTtlSecs, same]

theorem kubernetesLogin_answered {role jwtPath mount token : String} {ttl : UInt64}
    {renewable : Bool} {left : Exchange (Except VaultError Token)}
    (reached : ((c.underPolicy policy).kubernetesLogin role jwtPath mount).run.Reaches told left)
    (answered : AnsweredWith told (Sample.auth token ttl.toNat renewable)) :
    if token = "" then
      left = .done (.error (.authenticationFailed
        (loginPath mount ++ ": no client token in response")))
    else Concludes told left fun now => ⟨token, now, .ofTtlSecs ttl.toNat, renewable⟩ := by
  obtain ⟨request, answered⟩ := answered
  unfold kubernetesLogin at reached
  rcases Call.reaches_bind reached with
    ⟨rest, before, -, -⟩ | ⟨e, before, -⟩ | ⟨first, text, last, rfl, before, after⟩
  · rcases readText_reaches before with ⟨rfl, -⟩ | ⟨_, rfl, -⟩ <;> cases answered
  · rcases readText_reaches before with ⟨rfl, -⟩ | ⟨_, rfl, -⟩ <;> cases answered
  · rcases readText_reaches before with ⟨-, more⟩ | ⟨_, rfl, ⟨⟩⟩
    · exact absurd rfl (more _)
    · cases text with
      | error reason =>
          simp only [Call.throw_bind] at after
          obtain ⟨rfl, rfl⟩ := Dialogue.reaches_done after
          cases answered
      | ok jwt =>
          simp only [Call.pure_bind] at after
          obtain ⟨sent, last, rfl, granted⟩ :=
            (responds_send c policy _ _ _ _).bind (fun response => by
              refine (quiet_decode Wire.auth? response).bind fun grant => ?_
              split
              · exact (Call.quiet_throw _).bind fun _ => quiet_clock.bind fun _ => Call.quiet_pure _
              · exact quiet_clock.bind fun _ => Call.quiet_pure _) after answered rfl
          rw [decode_render (exact_auth token ttl renewable) (auth?_auth token ttl renewable),
            Call.pure_bind] at granted
          by_cases missing : token = ""
          · simp only [if_pos missing, Call.throw_bind] at granted ⊢
            exact (Dialogue.reaches_done granted).2
          · simp only [if_neg missing] at granted ⊢
            exact (Concludes.of_clock granted).behind.behind

/-- A client decodes exactly what the bodies of responses say: whatever request of an operation is
answered with one of the samples, under any policy and behind any failures, the operation asks for
nothing but the time any more and ends with the values of that sample. -/
theorem decodes_bodies (c : Client) (policy : RetryPolicy) :
    (∀ (token path id : String) (ttl : UInt64) (renewable : Bool)
        (told : List (Answered Query.Answer)) (left : Exchange (Except VaultError Secret)),
      ((c.underPolicy policy).read token path).run.Reaches told left →
      AnsweredWith told (Sample.leasedRead id ttl.toNat renewable) →
      ∃ data, (Sample.leasedRead id ttl.toNat renewable).member? "data" = some data ∧
        Concludes told left fun now =>
          { data
            lease :=
              if id = "" then none
              else some
                { id, data, renewable
                  path := String.ofList (path.toList.dropWhile (· == '/'))
                  issued := now
                  validity := if ttl = 0 then .infinite else .finite (.ofSecs ttl.toNat) } }) ∧
    (∀ (token path : String) (d : Json) (told : List (Answered Query.Answer))
        (left : Exchange (Except VaultError Secret)), Exact 100 d →
      ((c.underPolicy policy).read token path).run.Reaches told left →
      AnsweredWith told (Sample.storedRead d) →
      ∃ data, (Sample.storedRead d).member? "data" = some data ∧ data.member? "data" = some d ∧
        Concludes told left fun _ => { data, lease := none }) ∧
    (∀ (t : Token) (token : String) (ttl : UInt64) (renewable : Bool)
        (told : List (Answered Query.Answer)) (left : Exchange (Except VaultError Token)),
      ((c.underPolicy policy).renewToken t).run.Reaches told left →
      AnsweredWith told (Sample.auth token ttl.toNat renewable) →
      Concludes told left fun now =>
        { value := if token = "" then t.value else token
          issued := now
          validity := if ttl = 0 then .infinite else .finite (.ofSecs ttl.toNat)
          renewable }) ∧
    (∀ (role jwtPath mount token : String) (ttl : UInt64) (renewable : Bool)
        (told : List (Answered Query.Answer)) (left : Exchange (Except VaultError Token)),
      c.authentication = .kubernetes role jwtPath mount →
      (c.underPolicy policy).login.run.Reaches told left →
      AnsweredWith told (Sample.auth token ttl.toNat renewable) →
      if token = "" then
        left = .done (.error (.authenticationFailed
          (loginPath mount ++ ": no client token in response")))
      else Concludes told left fun now =>
        { value := token
          issued := now
          validity := if ttl = 0 then .infinite else .finite (.ofSecs ttl.toNat)
          renewable }) ∧
    (∀ (value : String) (ttl : UInt64) (renewable : Bool) (told : List (Answered Query.Answer))
        (left : Exchange (Except VaultError Token)),
      c.authentication = .token value →
      (c.underPolicy policy).login.run.Reaches told left →
      AnsweredWith told (Sample.lookupSelf ttl.toNat renewable) →
      Concludes told left fun now =>
        { value
          issued := now
          validity := if ttl = 0 then .infinite else .finite (.ofSecs ttl.toNat)
          renewable }) ∧
    (∀ (token id : String) (l : Lease) (ttl : UInt64) (told : List (Answered Query.Answer))
        (left : Exchange (Except VaultError Lease)), l.renewable = true →
      ((c.underPolicy policy).renewLease token l).run.Reaches told left →
      AnsweredWith told (Sample.leaseRenewal id ttl.toNat) →
      Concludes told left fun now => l.renewed now (.finite (.ofSecs ttl.toNat)) true) := by
  refine ⟨?_, ?_, ?_, ?_, ?_, ?_⟩
  · intro token path id ttl renewable told left reached answered
    obtain ⟨data, member, exact, found⟩ := exact_leasedRead id ttl renewable
    refine ⟨data, member, ?_⟩
    rw [← ofTtlSecs_toNat]
    exact concludes_decode reached answered exact found
  · intro token path d told left exact reached answered
    obtain ⟨data, payload, member, exact, found⟩ := exact_storedRead exact
    refine ⟨data, payload, member, ?_⟩
    exact concludes_decode reached answered exact found
  · intro t token ttl renewable told left reached answered
    rw [← ofTtlSecs_toNat]
    exact concludes_decode reached answered (exact_auth token ttl renewable)
      (auth?_auth token ttl renewable)
  · intro role jwtPath mount token ttl renewable told left auth reached answered
    rw [← ofTtlSecs_toNat]
    have same : (c.underPolicy policy).authentication = c.authentication := rfl
    unfold login at reached
    rw [same, auth] at reached
    exact kubernetesLogin_answered reached answered
  · intro value ttl renewable told left auth reached answered
    rw [← ofTtlSecs_toNat]
    have same : (c.underPolicy policy).authentication = c.authentication := rfl
    unfold login at reached
    rw [same, auth] at reached
    exact concludes_decode reached answered (exact_lookupSelf ttl renewable)
      (lookup?_lookupSelf ttl renewable)
  · intro token id l ttl told left renewable reached answered
    unfold renewLease at reached
    simp only [renewable, Bool.not_true, Bool.false_eq_true, if_false] at reached
    have concludes := concludes_decode reached answered (exact_leaseRenewal id ttl)
      (renewal?_leaseRenewal id ttl)
    exact concludes

def ofTeamRequest (call : ApiCall) (path : List String) : Http.Request where
  method := call.method
  url :=
    { scheme := "https"
      host := some (.ipv4 2130706433)
      port := some 8200
      path := .segments ("v1" :: path) }
  headers := ("x-vault-namespace", "team") :: (call.token.map (Prod.mk "x-vault-token")).toList
  body := call.body

theorem ofTeam_composes (auth : Authentication) {call : ApiCall} (path : List String)
    (url : ofTeam.endpoint.apiUrl call.path = .ok (ofTeamRequest call path).url)
    (token : ∀ t ∈ call.token, Http.validHeaderValue t = true) :
    { ofTeam with authentication := auth }.Composes call (ofTeamRequest call path) where
  method := rfl
  url := url
  token := token
  namespace_ := by
    rintro n ⟨⟩
    decide
  headers := rfl
  body := rfl

def inCluster : Client :=
  { ofTeam with authentication := .kubernetes "app" "/var/run/token" "kubernetes" }

def loginRequest (jwt : String) : Http.Request :=
  ofTeamRequest
    ⟨"POST", loginPath "kubernetes", none, some (Wire.loginBody "app" (Text.trimmed jwt))⟩
    ["auth", "kubernetes", "login"]

theorem loginRequest_composed (jwt : String) :
    inCluster.Composes ⟨"POST", loginPath "kubernetes", none,
      some (Wire.loginBody "app" (Text.trimmed jwt))⟩ (loginRequest jwt) := by
  have url : ofTeam.endpoint.apiUrl (loginPath "kubernetes") =
      .ok (ofTeamRequest ⟨"POST", "", none, none⟩ ["auth", "kubernetes", "login"]).url :=
    eq_ok_of_toOption (by decide +kernel)
  exact ofTeam_composes _ ["auth", "kubernetes", "login"] url nofun

theorem readText_reaches_ok (file text : String) :
    (ExceptT.lift (readText file) : Call (Except String String)).run.Reaches
      [⟨.readText file, (.ok text : Except String String)⟩] (.done (.ok (.ok text))) :=
  .ask (.here _)

theorem inCluster_reaches_login :
    ∃ told, AnsweredWith told (Sample.auth "" 60 true) ∧
      (inCluster.underPolicy {}).login.run.Reaches told
        (.done (.error (.authenticationFailed
          "auth/kubernetes/login: no client token in response"))) := by
  have read := readText_reaches_ok "/var/run/token" "jwt"
  have decoded : decode Wire.auth? ⟨200, Utf8.ofString (Sample.auth "" 60 true).render⟩ =
      pure ⟨"", 60, true⟩ := decode_render (exact_auth "" 60 true) (auth?_auth "" 60 true) 200
  have answered := reaches_send (loginRequest_composed "jwt") {}
    (r := ⟨200, Utf8.ofString (Sample.auth "" 60 true).render⟩) rfl
  refine ⟨_ ++ (_ ++ (_ ++ [])), ?_,
    Call.reaches_seq read (Call.reaches_seq (.here _) (Call.reaches_seq answered ?_))⟩
  · exact ⟨_, rfl⟩
  · rw [decoded, Call.pure_bind]
    exact .here _

/-- The runs of these operations end with the values of the bodies that they are answered with: a
lease without an end, values without a lease, a token that keeps its value, a login without a token,
a token without an end, and a lease that is granted nothing more. -/
theorem decodes_bodies_ofTeam :
    (∃ told left data,
      ((ofTeam.underPolicy {}).read "s.token" "//database/creds").run.Reaches told left ∧
      AnsweredWith told (Sample.leasedRead "a" 0 true) ∧
      (Sample.leasedRead "a" 0 true).member? "data" = some data ∧
      Concludes told left fun now =>
        ⟨data, some ⟨"a", "database/creds", data, now, .infinite, true⟩⟩) ∧
    (∃ told left data,
      ((ofTeam.underPolicy {}).read "s.token" "secret").run.Reaches told left ∧
      AnsweredWith told (Sample.storedRead (.array [.string "é", .null])) ∧
      data.member? "data" = some (.array [.string "é", .null]) ∧
      Concludes told left fun _ => ⟨data, none⟩) ∧
    (∃ told left,
      ((ofTeam.underPolicy {}).renewToken (Session.Renewing.minute "old" 0)).run.Reaches
        told left ∧
      AnsweredWith told (Sample.auth "" 60 true) ∧
      Concludes told left fun now => ⟨"old", now, .finite (.ofSecs 60), true⟩) ∧
    (∃ told left, (inCluster.underPolicy {}).login.run.Reaches told left ∧
      AnsweredWith told (Sample.auth "" 60 true) ∧
      left = .done (.error (.authenticationFailed
        "auth/kubernetes/login: no client token in response"))) ∧
    (∃ told left, (ofTeam.underPolicy {}).login.run.Reaches told left ∧
      AnsweredWith told (Sample.lookupSelf 0 false) ∧
      Concludes told left fun now => ⟨"s.token", now, .infinite, false⟩) ∧
    (∃ told left,
      ((ofTeam.underPolicy {}).renewLease "s.token" (Container.twoMinutes "a" 0)).run.Reaches
        told left ∧
      AnsweredWith told (Sample.leaseRenewal "a" 0) ∧
      Concludes told left fun now =>
        (Container.twoMinutes "a" 0).renewed now (.finite .zero) true) := by
  obtain ⟨leased, stored, renews, -, looksUp, extended⟩ := decodes_bodies ofTeam {}
  obtain ⟨-, -, -, logsIn, -, -⟩ := decodes_bodies inCluster {}
  have now : Instant := ⟨60000000000⟩
  refine ⟨?_, ?_, ?_, ?_, ?_, ?_⟩
  · obtain ⟨data, member, exact, found⟩ := exact_leasedRead "a" 0 true
    have composed : ofTeam.Composes ⟨"GET", secretPath "//database/creds", some "s.token", none⟩
        _ := ofTeam_composes _ ["database", "creds"] (eq_ok_of_toOption (by decide +kernel))
          (by decide)
    have reached : ((ofTeam.underPolicy {}).read "s.token" "//database/creds").run.Reaches _ _ :=
      reaches_decode composed {} exact found _ now
    obtain ⟨data, member, concludes⟩ := leased _ _ "a" 0 true _ _ reached ⟨_, rfl⟩
    exact ⟨_, _, data, reached, ⟨_, rfl⟩, member, by simpa using concludes⟩
  · have texts : Exact 100 (.array [.string "é", .null]) := by
      refine .array fun v member => ?_
      simp only [List.mem_cons, List.not_mem_nil, or_false] at member
      rcases member with rfl | rfl
      · exact .string "é"
      · exact .null
    obtain ⟨data, -, -, exact, found⟩ := exact_storedRead texts
    have composed : ofTeam.Composes ⟨"GET", secretPath "secret", some "s.token", none⟩ _ :=
      ofTeam_composes _ ["secret"] (eq_ok_of_toOption (by decide +kernel)) (by decide)
    have reached : ((ofTeam.underPolicy {}).read "s.token" "secret").run.Reaches _ _ :=
      reaches_decode composed {} exact found _ now
    obtain ⟨data, -, member, concludes⟩ := stored _ _ _ _ _ texts reached ⟨_, rfl⟩
    exact ⟨_, _, data, reached, ⟨_, rfl⟩, member, concludes⟩
  · have composed : ofTeam.Composes
        ⟨"POST", "auth/token/renew-self", some "old", some Wire.emptyBody⟩ _ :=
      ofTeam_composes _ ["auth", "token", "renew-self"]
        (eq_ok_of_toOption (by decide +kernel)) (by decide)
    have reached : ((ofTeam.underPolicy {}).renewToken
        (Session.Renewing.minute "old" 0)).run.Reaches _ _ :=
      reaches_decode composed {} (exact_auth "" 60 true) (auth?_auth "" 60 true) _ now
    have concludes := renews _ "" 60 true _ _ reached ⟨_, rfl⟩
    exact ⟨_, _, reached, ⟨_, rfl⟩, concludes⟩
  · obtain ⟨told, answered, reached⟩ := inCluster_reaches_login
    exact ⟨told, _, reached, answered,
      logsIn "app" "/var/run/token" "kubernetes" "" 60 true told _ rfl reached answered⟩
  · have composed : ofTeam.Composes ⟨"GET", "auth/token/lookup-self", some "s.token", none⟩ _ :=
      ofTeam_composes _ ["auth", "token", "lookup-self"]
        (eq_ok_of_toOption (by decide +kernel)) (by decide)
    have reached : (ofTeam.underPolicy {}).login.run.Reaches _ _ :=
      reaches_decode composed {} (exact_lookupSelf 0 false) (lookup?_lookupSelf 0 false) _ now
    have concludes := looksUp "s.token" 0 false _ _ rfl reached ⟨_, rfl⟩
    exact ⟨_, _, reached, ⟨_, rfl⟩, by simpa using concludes⟩
  · have composed : ofTeam.Composes ⟨"PUT", "sys/leases/renew", some "s.token",
        some (Wire.renewBody "a" (.finite (.ofSecs 120)))⟩ _ :=
      ofTeam_composes _ ["sys", "leases", "renew"]
        (eq_ok_of_toOption (by decide +kernel)) (by decide)
    have reached : ((ofTeam.underPolicy {}).renewLease "s.token"
        (Container.twoMinutes "a" 0)).run.Reaches _ _ :=
      reaches_decode composed {} (exact_leaseRenewal "a" 0) (renewal?_leaseRenewal "a" 0) _ now
    have concludes := extended _ "a" _ 0 _ _ rfl reached ⟨_, rfl⟩
    exact ⟨_, _, reached, ⟨_, rfl⟩, concludes⟩

end Client

end Leasehold
