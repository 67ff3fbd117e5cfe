import Leasehold.Http.Factory
import Leasehold.Proofs.Retry

/-!
# Requests that are tried again

Whoever uses a retrying factory finds the factory within, with its creations and
the executions of its objects under the policy, each on its own
(`serve_withRetries`); so a use is told as one of the factory within
(`Served`), in which every creation and every execution has all attempts of the
policy, and every attempt of an execution is one of the same object, as it has
been changed before (`each_step_retried_alone`).
-/

set_option autoImplicit false

universe u

namespace Leasehold

namespace RetryPolicy

variable {Q : Type u} {R : Q → Type} {ε α β : Type} {retryable : ε → Bool}

theorem run_once {p : RetryPolicy} (once : p.maxAttempts = 1)
    (operation : Dialogue Q R (Except ε α)) : p.run retryable operation = operation := by
  rw [run, once]
  rfl

theorem maxAttempts_of_off {p : RetryPolicy} (off : p.enabled = false) : p.maxAttempts = 1 := by
  have none : ¬ 0 < p.attempts := of_decide_eq_false off
  exact max_eq_right (Nat.le_succ_of_le (Nat.le_of_not_lt none))

theorem attempt_map (backoff : Duration) (operation : Dialogue Q R (Except ε α)) (g : α → β)
    (left : Nat) :
    (attempt backoff retryable operation left).bind (fun o => .done (o.map g)) =
      attempt backoff retryable (operation.bind fun o => .done (o.map g)) left := by
  induction left with
  | zero => rfl
  | succ left ih =>
      rw [attempt, attempt, Dialogue.bind_assoc, Dialogue.bind_assoc]
      congr 1
      funext outcome
      cases outcome with
      | ok a => rfl
      | error e =>
          cases calling : retryable e with
          | false => simp [calling, Except.map]
          | true =>
              simp only [calling, if_true, Except.map, Dialogue.pause_bind, Dialogue.done_bind]
              exact congrArg _ (funext fun _ => ih)

end RetryPolicy

namespace Http.Factory

open Dialogue (Act)
open RetryPolicy (Calls Follows)

variable {B : Type} {Q : Type u} {R : Q → Type} {α : Type}

/-- The factory with each creation, and each execution of an object, under the policy. -/
abbrev stepwise (f : Factory B Q R) (policy : RetryPolicy) : Factory B Q R :=
  { f with
    create := fun method url => policy.run VaultError.retryable (f.create method url)
    execute := fun o => policy.run VaultError.retryable (f.execute o) }

/-- The objects of `g` hold those of `f`, and `g` does with them what `f` does, under the policy. -/
structure Wraps (f g : Factory B Q R) (policy : RetryPolicy) (wrap : f.Object → g.Object) :
    Prop where
  create : ∀ method url, g.create method url =
    (policy.run VaultError.retryable (f.create method url)).bind fun o => .done (o.map wrap)
  target : ∀ o, g.target (wrap o) = f.target o
  headers : ∀ change o, g.headers change (wrap o) =
    (f.headers change o).bind fun r => .done (r.1, wrap r.2)
  setBody : ∀ body o, g.setBody body (wrap o) =
    (f.setBody body o).bind fun changed => .done (wrap changed)
  execute : ∀ o, g.execute (wrap o) = policy.run VaultError.retryable (f.execute o)

variable {f g : Factory B Q R} {policy : RetryPolicy} {wrap : f.Object → g.Object}

theorem wraps_retrying : Wraps f (f.retrying policy) policy fun o => ⟨o, policy⟩ :=
  ⟨fun _ _ => rfl, fun _ => rfl, fun _ _ => rfl, fun _ _ => rfl, fun _ => rfl⟩

theorem wraps_self (once : policy.maxAttempts = 1) : Wraps f f policy id where
  create method url := by
    rw [RetryPolicy.run_once once]
    simp only [Except.map_id, id]
    exact (Dialogue.bind_done _).symm
  target _ := rfl
  headers change o := (Dialogue.bind_done _).symm
  setBody body o := (Dialogue.bind_done _).symm
  execute o := (RetryPolicy.run_once once _).symm

theorem Wraps.act (wraps : Wraps f g policy wrap) (deed : Deed B) (o : f.Object) :
    g.act deed (wrap o) =
      ((f.stepwise policy).act deed o).bind fun r => .done (r.1, wrap r.2) := by
  cases deed with
  | target =>
      change (g.target (wrap o)).bind _ = ((f.target o).bind _).bind _
      rw [wraps.target, Dialogue.bind_assoc]
      rfl
  | headers change => exact wraps.headers change o
  | setBody body =>
      change (g.setBody body (wrap o)).bind _ = ((f.setBody body o).bind _).bind _
      rw [wraps.setBody, Dialogue.bind_assoc, Dialogue.bind_assoc]
      rfl
  | execute =>
      change (g.execute (wrap o)).bind _ =
        ((policy.run VaultError.retryable (f.execute o)).bind _).bind _
      rw [wraps.execute, Dialogue.bind_assoc]
      rfl

theorem Wraps.use (wraps : Wraps f g policy wrap) (held : List f.Object) (q : Use B) :
    g.use (held.map wrap) q =
      ((f.stepwise policy).use held q).bind fun r => .done (r.1, r.2.map wrap) := by
  cases q with
  | create method url =>
      rw [Factory.use, Factory.use, wraps.create, Dialogue.bind_assoc, Dialogue.bind_assoc]
      congr 1
      funext created
      cases created with
      | ok o => simp [Except.map, noted]
      | error e => rfl
  | on n deed =>
      rw [Factory.use, Factory.use, List.getElem?_map]
      cases held[n]? with
      | none => rfl
      | some o =>
          change (g.act deed (wrap o)).bind _ = (((f.stepwise policy).act deed o).bind _).bind _
          rw [wraps.act, Dialogue.bind_assoc, Dialogue.bind_assoc]
          simp only [Dialogue.done_bind, List.map_set]

theorem Wraps.serve (wraps : Wraps f g policy wrap) (held : List f.Object)
    (client : Dialogue (Use B) Use.Answer α) :
    g.serve (held.map wrap) client = (f.stepwise policy).serve held client := by
  induction client generalizing held with
  | done a => rfl
  | ask q next ih =>
      rw [Factory.serve, Factory.serve, wraps.use, Dialogue.bind_assoc]
      congr 1
      funext r
      exact ih r.1 r.2
  | pause d next ih =>
      rw [Factory.serve, Factory.serve]
      congr 1
      funext u
      exact ih u held

/-- Behind the decorator stands the factory with every step under the policy. -/
theorem serve_withRetries (client : Dialogue (Use B) Use.Answer α) :
    (f.withRetries policy).serve [] client = (f.stepwise policy).serve [] client := by
  unfold withRetries
  cases on : policy.enabled with
  | true => exact wraps_retrying.serve [] client
  | false => exact (wraps_self (RetryPolicy.maxAttempts_of_off on)).serve [] client

theorem ofTransport_withRetries (t : Transport) :
    ofTransport (t.withRetries policy) = (ofTransport t).stepwise policy := by
  unfold Transport.withRetries
  cases on : policy.enabled with
  | true =>
      simp only [if_true, ofTransport, Transport.retrying, stepwise]
      congr 1
      funext method url
      exact RetryPolicy.attempt_map policy.backoff (t.create method url) _ _
  | false => simp [stepwise, RetryPolicy.run_once (RetryPolicy.maxAttempts_of_off on)]

section Spec

variable (attempts : UInt32) (backoff : Duration)

def Retried {A : Type} (operation : Dialogue Q R (Except VaultError A)) (acts : List (Act R))
    (outcome : Except VaultError A) : Prop :=
  ∃ calls made, Calls operation calls ∧
    Follows (max attempts 1).toNat backoff VaultError.retryable calls made acts outcome

/-- What is done with one object. -/
inductive Acted (f : Factory B Q R) (o : f.Object) :
    (deed : Deed B) → List (Act R) → deed.Answer → f.Object → Prop
  | target {acts : List (Act R)} {seen : String × Url} (runs : (f.target o).Runs acts seen) :
      Acted f o .target acts seen o
  | headers {change : Headers → Headers} {acts : List (Act R)} {old : Headers} {changed : f.Object}
      (runs : (f.headers change o).Runs acts (old, changed)) :
      Acted f o (.headers change) acts old changed
  | setBody {body : B} {acts : List (Act R)} {changed : f.Object}
      (runs : (f.setBody body o).Runs acts changed) : Acted f o (.setBody body) acts () changed
  | execute {acts : List (Act R)} {outcome : Except VaultError Response}
      (tried : Retried attempts backoff (f.execute o) acts outcome) :
      Acted f o .execute acts outcome o

inductive Used (f : Factory B Q R) (held : List f.Object) :
    (q : Use B) → List (Act R) → q.Answer → List f.Object → Prop
  | created {method : String} {url : Url} {acts : List (Act R)} {o : f.Object}
      (tried : Retried attempts backoff (f.create method url) acts (.ok o)) :
      Used f held (.create method url) acts (.ok held.length) (held ++ [o])
  | refused {method : String} {url : Url} {acts : List (Act R)} {e : VaultError}
      (tried : Retried attempts backoff (f.create method url) acts (.error e)) :
      Used f held (.create method url) acts (.error e) held
  | on {n : Nat} {deed : Deed B} {o changed : f.Object} {acts : List (Act R)} {r : deed.Answer}
      (there : held[n]? = some o) (done : Acted attempts backoff f o deed acts r changed) :
      Used f held (.on n deed) acts (some r) (held.set n changed)
  | absent {n : Nat} {deed : Deed B} (gone : held[n]? = none) :
      Used f held (.on n deed) [] none held

/-- All that is said while a factory is used, from the objects that there are at first. -/
inductive Served (f : Factory B Q R) :
    List f.Object → Dialogue (Use B) Use.Answer α → List (Act R) → α → Prop
  | done {held : List f.Object} (a : α) : Served f held (.done a) [] a
  | pause {held : List f.Object} {d : Duration} {next : Unit → Dialogue (Use B) Use.Answer α}
      {acts : List (Act R)} {a : α} (later : Served f held (next ()) acts a) :
      Served f held (.pause d next) (.paused d :: acts) a
  | ask {held held' : List f.Object} {q : Use B} {next : q.Answer → Dialogue (Use B) Use.Answer α}
      {first last : List (Act R)} {r : q.Answer} {a : α}
      (used : Used attempts backoff f held q first r held')
      (later : Served f held' (next r) last a) : Served f held (.ask q next) (first ++ last) a

end Spec

variable {attempts : UInt32} {backoff : Duration}

theorem act_runs_iff {o o' : f.Object} {deed : Deed B} {acts : List (Act R)} {r : deed.Answer} :
    ((f.stepwise ⟨attempts.toNat, backoff⟩).act deed o).Runs acts (r, o') ↔
      Acted attempts backoff f o deed acts r o' := by
  constructor
  · intro runs
    cases deed with
    | target =>
        obtain ⟨seen, sees, ⟨⟩⟩ := Dialogue.runs_bind_done_iff.mp runs
        exact .target sees
    | headers change => exact .headers runs
    | setBody body =>
        obtain ⟨changed, changes, ⟨⟩⟩ := Dialogue.runs_bind_done_iff.mp runs
        exact .setBody changes
    | execute =>
        obtain ⟨outcome, tries, ⟨⟩⟩ := Dialogue.runs_bind_done_iff.mp runs
        exact .execute (RetryPolicy.run_runs_iff.mp tries)
  · intro done
    cases done with
    | target runs => exact Dialogue.runs_bind_done_iff.mpr ⟨_, runs, rfl⟩
    | headers runs => exact runs
    | setBody runs => exact Dialogue.runs_bind_done_iff.mpr ⟨_, runs, rfl⟩
    | execute tried =>
        exact Dialogue.runs_bind_done_iff.mpr ⟨_, RetryPolicy.run_runs_iff.mpr tried, rfl⟩

theorem use_runs_iff {held held' : List f.Object} {q : Use B} {acts : List (Act R)}
    {r : q.Answer} :
    ((f.stepwise ⟨attempts.toNat, backoff⟩).use held q).Runs acts (r, held') ↔
      Used attempts backoff f held q acts r held' := by
  constructor
  · intro runs
    cases q with
    | create method url =>
        obtain ⟨created, tries, same⟩ := Dialogue.runs_bind_done_iff.mp runs
        have tried := RetryPolicy.run_runs_iff.mp tries
        cases created with
        | ok o =>
            cases same
            exact .created tried
        | error e =>
            cases same
            exact .refused tried
    | on n deed =>
        rw [use] at runs
        cases there : held[n]? with
        | none =>
            rw [there] at runs
            obtain ⟨rfl, ⟨⟩⟩ := Dialogue.runs_done_iff.mp runs
            exact .absent there
        | some o =>
            rw [there] at runs
            obtain ⟨⟨r, changed⟩, acted, ⟨⟩⟩ := Dialogue.runs_bind_done_iff.mp runs
            exact .on there (act_runs_iff.mp acted)
  · intro used
    cases used with
    | created tried =>
        exact Dialogue.runs_bind_done_iff.mpr ⟨_, RetryPolicy.run_runs_iff.mpr tried, rfl⟩
    | refused tried =>
        exact Dialogue.runs_bind_done_iff.mpr ⟨_, RetryPolicy.run_runs_iff.mpr tried, rfl⟩
    | on there done =>
        rw [use, there]
        exact Dialogue.runs_bind_done_iff.mpr ⟨_, act_runs_iff.mpr done, rfl⟩
    | absent gone =>
        rw [use, gone]
        exact .done _

theorem serve_runs_iff {held : List f.Object} {client : Dialogue (Use B) Use.Answer α}
    {acts : List (Act R)} {a : α} :
    ((f.stepwise ⟨attempts.toNat, backoff⟩).serve held client).Runs acts a ↔
      Served attempts backoff f held client acts a := by
  constructor
  · intro runs
    induction client generalizing held acts with
    | done b =>
        obtain ⟨rfl, rfl⟩ := Dialogue.runs_done_iff.mp runs
        exact .done _
    | ask q next ih =>
        obtain ⟨first, ⟨r, held'⟩, last, rfl, used, later⟩ := Dialogue.runs_bind_iff.mp runs
        exact .ask (use_runs_iff.mp used) (ih r later)
    | pause d next ih =>
        obtain ⟨rest, rfl, later⟩ := Dialogue.runs_pause_iff.mp runs
        exact .pause (ih () later)
  · intro served
    induction served with
    | done a => exact .done a
    | pause later ih => exact .pause ih
    | ask used later ih => exact (use_runs_iff.mpr used).bind ih

/-- A retrying factory in use, whatever the factory within says and does: each creation is tried
as the policy has it, and so is each execution, with all attempts of its own, every one of them an
execution of the same object, with the header fields and the body that it has been given; all else
is as without the policy.  Without attempts the factory is the one within, and it makes no
difference to one attempt.  The transport of a client is of this kind. -/
theorem each_step_retried_alone (f : Factory B Q R) (attempts : UInt32) (backoff : Duration)
    (client : Dialogue (Use B) Use.Answer α) :
    (∀ acts a, ((f.withRetries ⟨attempts.toNat, backoff⟩).serve [] client).Runs acts a ↔
      Served attempts backoff f [] client acts a) ∧
    f.withRetries ⟨0, backoff⟩ = f ∧
    (f.withRetries ⟨0, backoff⟩).serve [] client = (f.withRetries ⟨1, backoff⟩).serve [] client ∧
    ∀ (t : Transport) (user : Dialogue (Use String) Use.Answer α),
      ((ofTransport t).withRetries ⟨attempts.toNat, backoff⟩).serve [] user =
        (ofTransport (t.withRetries ⟨attempts.toNat, backoff⟩)).serve [] user := by
  refine ⟨fun acts a => ?_, rfl, ?_, fun t user => ?_⟩
  · rw [serve_withRetries]
    exact serve_runs_iff
  · rw [serve_withRetries, serve_withRetries]
    rfl
  · rw [serve_withRetries, ofTransport_withRetries]

end Http.Factory

end Leasehold
