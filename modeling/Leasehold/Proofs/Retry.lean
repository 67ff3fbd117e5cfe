import Leasehold.Proofs.Transcript
import Mathlib.Data.ENat.Lattice
import Mathlib.Data.Stream.Init

/-!
# What a policy makes of an operation

A whole run of a dialogue is what is said in it, pauses included, and the value
with which it ends.  The operation under a policy may go differently each time,
so a stream says of every call how it would go.  A policy makes the calls of a
stream in order until the first whose outcome stands, but no more than it
allows, and waits once between two of them (`Follows`).  The loop that counts
its calls in thirty-two bits is the same procedure (`run_eq_counting`), and its
counter is never above what the policy allows (`calls_until_one_stands`).
-/

set_option autoImplicit false

universe u

namespace Leasehold

namespace Dialogue

variable {Q : Type u} {R : Q → Type} {α β : Type}

inductive Act (R : Q → Type) where
  | told (q : Q) (r : R q)
  | paused (d : Duration)

inductive Runs : Dialogue Q R α → List (Act R) → α → Prop
  | done (a : α) : Runs (.done a) [] a
  | ask {q : Q} {r : R q} {next : R q → Dialogue Q R α} {acts : List (Act R)} {a : α}
      (later : Runs (next r) acts a) : Runs (.ask q next) (.told q r :: acts) a
  | pause {d : Duration} {next : Unit → Dialogue Q R α} {acts : List (Act R)} {a : α}
      (later : Runs (next ()) acts a) : Runs (.pause d next) (.paused d :: acts) a

variable {p : Dialogue Q R α} {f : α → Dialogue Q R β} {acts first last : List (Act R)} {a b : α}
  {c : β}

theorem runs_done_iff : (done b).Runs acts a ↔ acts = [] ∧ a = b := by
  constructor
  · rintro ⟨⟩
    exact ⟨rfl, rfl⟩
  · rintro ⟨rfl, rfl⟩
    exact .done a

theorem runs_pause_iff {d : Duration} {next : Unit → Dialogue Q R α} :
    (pause d next).Runs acts a ↔ ∃ rest, acts = .paused d :: rest ∧ (next ()).Runs rest a := by
  constructor
  · rintro ⟨⟩
    exact ⟨_, rfl, ‹_›⟩
  · rintro ⟨rest, rfl, later⟩
    exact .pause later

theorem Runs.bind (before : p.Runs first a) (after : (f a).Runs last c) :
    (p.bind f).Runs (first ++ last) c := by
  induction before with
  | done a => exact after
  | ask later ih => exact .ask (ih after)
  | pause later ih => exact .pause (ih after)

theorem runs_bind_iff :
    (p.bind f).Runs acts c ↔
      ∃ first a last, acts = first ++ last ∧ p.Runs first a ∧ (f a).Runs last c := by
  constructor
  · intro runs
    induction p generalizing acts with
    | done a => exact ⟨[], a, acts, rfl, .done a, runs⟩
    | ask q next ih =>
        cases runs with
        | ask later =>
            obtain ⟨first, a, last, rfl, before, after⟩ := ih _ later
            exact ⟨_ :: first, a, last, rfl, .ask before, after⟩
    | pause d next ih =>
        cases runs with
        | pause later =>
            obtain ⟨first, a, last, rfl, before, after⟩ := ih _ later
            exact ⟨_ :: first, a, last, rfl, .pause before, after⟩
  · rintro ⟨first, a, last, rfl, before, after⟩
    exact before.bind after

theorem runs_bind_done_iff {g : α → β} :
    (p.bind fun a => .done (g a)).Runs acts c ↔ ∃ a, p.Runs acts a ∧ c = g a := by
  rw [runs_bind_iff]
  constructor
  · rintro ⟨first, a, last, rfl, runs, ends⟩
    obtain ⟨rfl, rfl⟩ := runs_done_iff.mp ends
    exact ⟨a, by rwa [List.append_nil], rfl⟩
  · rintro ⟨a, runs, rfl⟩
    exact ⟨acts, a, [], (List.append_nil acts).symm, runs, .done _⟩

end Dialogue

namespace RetryPolicy

open Dialogue (Act)
open Stream' (cons get take)

variable {Q : Type u} {R : Q → Type} {ε α : Type}

structure Call (R : Q → Type) (ε α : Type) where
  talk : List (Act R)
  outcome : Except ε α

def Calls (operation : Dialogue Q R (Except ε α)) (calls : Stream' (Call R ε α)) : Prop :=
  ∀ i, operation.Runs (calls.get i).talk (calls.get i).outcome

/-- The place, counted from one, of the first outcome that stands; infinite if there is none. -/
noncomputable def firstStanding (retryable : ε → Bool) (calls : Stream' (Call R ε α)) : ℕ∞ :=
  ⨅ i, ⨅ _ : again retryable (calls.get i).outcome = false, ((i + 1 : ℕ) : ℕ∞)

/-- What is said, and the outcome, if so many calls are made: as many as there are up to the first
whose outcome stands, or as the policy allows, with one pause between two of them. -/
structure Follows (most : Nat) (backoff : Duration) (retryable : ε → Bool)
    (calls : Stream' (Call R ε α)) (made : Nat) (acts : List (Act R)) (o : Except ε α) : Prop where
  count : (made : ℕ∞) = min (firstStanding retryable calls) most
  acts : acts = [.paused backoff].intercalate ((calls.take made).map Call.talk)
  last : ((calls.take made).map Call.outcome).getLast? = some o

variable {retryable : ε → Bool} {operation : Dialogue Q R (Except ε α)} {backoff : Duration}
  {call : Call R ε α} {calls : Stream' (Call R ε α)} {most made : Nat} {acts : List (Act R)}
  {o : Except ε α}

theorem Calls.cons (here : operation.Runs call.talk call.outcome) (rest : Calls operation calls) :
    Calls operation (cons call calls)
  | 0 => here
  | i + 1 => rest i

/-- An outcome that stands is the first; behind any other, all places move by one. -/
theorem firstStanding_cons :
    firstStanding retryable (cons call calls) =
      if again retryable call.outcome then firstStanding retryable calls + 1 else 1 := by
  have later : ⨅ i, ⨅ _ : again retryable (calls.get i).outcome = false, ((i + 1 + 1 : ℕ) : ℕ∞) =
      firstStanding retryable calls + 1 := by
    rw [firstStanding, ENat.iInf_add]
    refine iInf_congr fun i => ?_
    rw [ENat.iInf_add]
    rfl
  have split : firstStanding retryable (cons call calls) =
      (⨅ _ : again retryable call.outcome = false, 1) ⊓ (firstStanding retryable calls + 1) := by
    rw [← later, firstStanding, ← inf_iInf_nat_succ]
    rfl
  rw [split]
  cases again retryable call.outcome with
  | true => simp
  | false => simp

theorem one_le_firstStanding : 1 ≤ firstStanding retryable calls :=
  le_iInf₂ fun i _ => by simp

theorem Follows.one (ends : most = 0 ∨ again retryable call.outcome = false) :
    Follows (most + 1) backoff retryable (cons call calls) 1 call.talk call.outcome := by
  refine ⟨?_, by simp, by simp⟩
  rcases ends with rfl | stands
  · rw [min_eq_right (by simpa using one_le_firstStanding)]
  · rw [firstStanding_cons, stands]
    simp

theorem Follows.cons (calling : again retryable call.outcome = true)
    (rest : Follows most backoff retryable calls made acts o) :
    Follows (most + 1) backoff retryable (cons call calls) (made + 1)
      (call.talk ++ .paused backoff :: acts) o := by
  have some : made ≠ 0 := by
    rintro rfl
    exact nomatch rest.last
  obtain ⟨made, rfl⟩ := Nat.exists_eq_succ_of_ne_zero some
  refine ⟨?_, ?_, ?_⟩
  · rw [firstStanding_cons, if_pos calling, Nat.cast_succ, rest.count, Nat.cast_succ most,
      min_add_add_right]
  · rw [rest.acts, Stream'.take_succ_cons, Stream'.take_succ]
    simp only [List.map_cons, List.intercalate_cons_cons, List.append_assoc, List.singleton_append]
  · rw [Stream'.take_succ_cons, List.map_cons, List.getLast?_cons, rest.last]
    rfl

theorem Follows.made_le (follows : Follows most backoff retryable calls made acts o) :
    made ≤ most :=
  Nat.cast_le.mp (follows.count.trans_le (min_le_right _ _))

theorem Follows.unique {made' : Nat} {acts' : List (Act R)} {o' : Except ε α}
    (follows : Follows most backoff retryable calls made acts o)
    (same : Follows most backoff retryable calls made' acts' o') : acts = acts' ∧ o = o' := by
  obtain rfl : made = made' := Nat.cast_injective (follows.count.trans same.count.symm)
  exact ⟨follows.acts.trans same.acts.symm,
    Option.some_injective _ (follows.last.symm.trans same.last)⟩

theorem toNat_succ {made most : UInt32} (below : made < most) :
    (made + 1).toNat = made.toNat + 1 := by
  have room : made.toNat + 1 < 2 ^ 32 :=
    Nat.lt_of_le_of_lt (UInt32.lt_iff_toNat_lt.mp below) most.toNat_lt
  rw [UInt32.toNat_add]
  exact Nat.mod_eq_of_lt room

/-- The attempts with a counter of them in thirty-two bits, from `made` on; beside the outcome
stands every value that the counter has had. -/
def counting (attempts : UInt32) (backoff : Duration) (retryable : ε → Bool)
    (operation : Dialogue Q R (Except ε α)) (made : UInt32) :
    Dialogue Q R (Except ε α × List UInt32) :=
  operation.bind fun outcome =>
    if _ : made < max attempts 1 ∧ again retryable outcome = true then
      .pause backoff fun _ =>
        (counting attempts backoff retryable operation (made + 1)).bind fun (o, counter) =>
          .done (o, made :: counter)
    else .done (outcome, [made])
termination_by (max attempts 1).toNat - made.toNat
decreasing_by
  have below : made < max attempts 1 := And.left ‹_›
  rw [toNat_succ below]
  exact Nat.sub_succ_lt_self _ _ (UInt32.lt_iff_toNat_lt.mp below)

section Counter

variable {attempts counter : UInt32} {left : Nat} {values : List UInt32}

theorem counting_runs_iff :
    (counting attempts backoff retryable operation counter).Runs acts (o, values) ↔
      (operation.Runs acts o ∧ values = [counter] ∧
        (counter < max attempts 1 → again retryable o = false)) ∨
      ∃ first o' last rest, acts = first ++ .paused backoff :: last ∧ values = counter :: rest ∧
        operation.Runs first o' ∧ counter < max attempts 1 ∧ again retryable o' = true ∧
        (counting attempts backoff retryable operation (counter + 1)).Runs last (o, rest) := by
  rw [counting, Dialogue.runs_bind_iff]
  constructor
  · rintro ⟨first, outcome, last, rfl, here, after⟩
    split at after
    · rename_i more
      obtain ⟨_, rfl, waited⟩ := Dialogue.runs_pause_iff.mp after
      obtain ⟨⟨o', rest⟩, runs, ⟨⟩⟩ := Dialogue.runs_bind_done_iff.mp waited
      exact Or.inr ⟨first, outcome, _, rest, rfl, rfl, here, more.1, more.2, runs⟩
    · rename_i enough
      obtain ⟨rfl, ⟨⟩⟩ := Dialogue.runs_done_iff.mp after
      rw [List.append_nil]
      refine Or.inl ⟨here, rfl, fun below => ?_⟩
      exact Bool.eq_false_iff.mpr fun calling => enough ⟨below, calling⟩
  · rintro (⟨here, rfl, stands⟩ | ⟨first, o', last, rest, rfl, rfl, here, below, calling, runs⟩)
    · refine ⟨acts, o, [], (List.append_nil acts).symm, here, ?_⟩
      rw [dif_neg fun more => by simp [stands more.1] at more]
      exact .done _
    · refine ⟨first, o', _, rfl, here, ?_⟩
      rw [dif_pos ⟨below, calling⟩]
      exact .pause (Dialogue.runs_bind_done_iff.mpr ⟨(o, rest), runs, rfl⟩)

theorem not_lt_of_counted (counted : counter.toNat + 0 = (max attempts 1).toNat) :
    ¬ counter < max attempts 1 :=
  fun below => Nat.ne_of_lt (UInt32.lt_iff_toNat_lt.mp below) counted

theorem lt_of_counted (counted : counter.toNat + (left + 1) = (max attempts 1).toNat) :
    counter < max attempts 1 :=
  UInt32.lt_iff_toNat_lt.mpr (by omega)

theorem counted_succ (below : counter < max attempts 1)
    (counted : counter.toNat + (left + 1) = (max attempts 1).toNat) :
    (counter + 1).toNat + left = (max attempts 1).toNat := by
  rw [toNat_succ below]
  omega

theorem attempt_eq_counting (counted : counter.toNat + left = (max attempts 1).toNat) :
    attempt backoff retryable operation left =
      (counting attempts backoff retryable operation counter).bind fun r => .done r.1 := by
  induction left generalizing counter with
  | zero =>
      have enough := not_lt_of_counted counted
      rw [counting, Dialogue.bind_assoc]
      simp only [enough, false_and, dite_false]
      exact (Dialogue.bind_done operation).symm
  | succ left ih =>
      have below := lt_of_counted counted
      rw [counting, Dialogue.bind_assoc, attempt]
      congr 1
      funext outcome
      cases outcome with
      | ok a => simp [again]
      | error e =>
          cases calling : retryable e with
          | false => simp [again, calling]
          | true =>
              rw [ih (counted_succ below counted)]
              simp [again, calling, below, Dialogue.bind_assoc]

/-- Whatever the calls would be, a run makes as many of them as it should, and counts each. -/
theorem counting_follows (counted : counter.toNat + left = (max attempts 1).toNat)
    (possible : Calls operation calls) :
    ∃ made acts o values,
      (counting attempts backoff retryable operation counter).Runs acts (o, values) ∧
        Follows (left + 1) backoff retryable calls made acts o ∧
        values.map UInt32.toNat = List.range' counter.toNat made := by
  induction left generalizing counter calls with
  | zero =>
      have enough := not_lt_of_counted counted
      obtain ⟨call, calls, rfl⟩ : ∃ call rest, calls = cons call rest := ⟨_, _, calls.eta.symm⟩
      exact ⟨1, call.talk, call.outcome, [counter],
        counting_runs_iff.mpr (Or.inl ⟨possible 0, rfl, fun below => absurd below enough⟩),
        .one (Or.inl rfl), rfl⟩
  | succ left ih =>
      have below := lt_of_counted counted
      have next := counted_succ below counted
      obtain ⟨call, calls, rfl⟩ : ∃ call rest, calls = cons call rest := ⟨_, _, calls.eta.symm⟩
      cases calling : again retryable call.outcome with
      | false =>
          exact ⟨1, call.talk, call.outcome, [counter],
            counting_runs_iff.mpr (Or.inl ⟨possible 0, rfl, fun _ => calling⟩),
            .one (Or.inr calling), rfl⟩
      | true =>
          obtain ⟨made, acts, o, values, runs, follows, counts⟩ :=
            ih next fun i => possible (i + 1)
          refine ⟨made + 1, _, o, counter :: values, counting_runs_iff.mpr (Or.inr
            ⟨call.talk, call.outcome, acts, values, rfl, rfl, possible 0, below, calling, runs⟩),
            follows.cons calling, ?_⟩
          rw [List.map_cons, counts, toNat_succ below, List.range'_succ]

theorem follows_counting (counted : counter.toNat + left = (max attempts 1).toNat)
    (runs : (counting attempts backoff retryable operation counter).Runs acts (o, values)) :
    ∃ calls made, Calls operation calls ∧
      Follows (left + 1) backoff retryable calls made acts o ∧
      values.map UInt32.toNat = List.range' counter.toNat made := by
  induction left generalizing counter acts values with
  | zero =>
      have enough := not_lt_of_counted counted
      rcases counting_runs_iff.mp runs with ⟨here, rfl, _⟩ | ⟨_, _, _, _, _, _, _, below, _⟩
      · exact ⟨cons ⟨acts, o⟩ (.const ⟨acts, o⟩), 1, .cons here fun _ => here,
          .one (Or.inl rfl), rfl⟩
      · exact absurd below enough
  | succ left ih =>
      have below := lt_of_counted counted
      have next := counted_succ below counted
      rcases counting_runs_iff.mp runs with
        ⟨here, rfl, stands⟩ | ⟨first, o', last, rest, rfl, rfl, here, _, calling, later⟩
      · exact ⟨cons ⟨acts, o⟩ (.const ⟨acts, o⟩), 1, .cons here fun _ => here,
          .one (Or.inr (stands below)), rfl⟩
      · obtain ⟨calls, made, possible, follows, counts⟩ := ih next later
        refine ⟨cons ⟨first, o'⟩ calls, made + 1, .cons here possible, follows.cons calling, ?_⟩
        rw [List.map_cons, counts, toNat_succ below, List.range'_succ]

theorem maxAttempts_eq : maxAttempts ⟨attempts.toNat, backoff⟩ = (max attempts 1).toNat :=
  (UInt32.toNat_max attempts 1).symm

theorem one_le_max : 1 ≤ (max attempts 1).toNat := by
  rw [UInt32.toNat_max]
  exact Nat.le_max_right _ _

theorem counted_one : (1 : UInt32).toNat + ((max attempts 1).toNat - 1) = (max attempts 1).toNat :=
  Nat.add_sub_cancel' one_le_max

theorem run_eq_counting :
    run ⟨attempts.toNat, backoff⟩ retryable operation =
      (counting attempts backoff retryable operation 1).bind fun r => .done r.1 := by
  rw [run, maxAttempts_eq]
  exact attempt_eq_counting counted_one

/-- What runs under the policy makes the calls of some stream, and all such runs are possible. -/
theorem run_runs_iff :
    (run ⟨attempts.toNat, backoff⟩ retryable operation).Runs acts o ↔
      ∃ calls made, Calls operation calls ∧
        Follows (max attempts 1).toNat backoff retryable calls made acts o := by
  rw [run_eq_counting, Dialogue.runs_bind_done_iff]
  constructor
  · rintro ⟨⟨o, values⟩, runs, rfl⟩
    obtain ⟨calls, made, possible, follows, _⟩ := follows_counting counted_one runs
    rw [Nat.sub_add_cancel one_le_max] at follows
    exact ⟨calls, made, possible, follows⟩
  · rintro ⟨calls, made, possible, follows⟩
    obtain ⟨_, acts, o, values, runs, same, _⟩ := counting_follows counted_one possible
    rw [Nat.sub_add_cancel one_le_max] at same
    obtain ⟨rfl, rfl⟩ := follows.unique same
    exact ⟨(_, values), runs, rfl⟩

/-- A counter that has counted so many calls one by one, and stays within what a policy allows. -/
structure Counted (attempts : UInt32) (values : List UInt32) (made : Nat) : Prop where
  each : values.map UInt32.toNat = List.range' 1 made
  within : ∀ n ∈ values, n ≤ max attempts 1

theorem Follows.counted
    (follows : Follows (max attempts 1).toNat backoff retryable calls made acts o)
    (each : values.map UInt32.toNat = List.range' 1 made) : Counted attempts values made := by
  refine ⟨each, fun n member => UInt32.le_iff_toNat_le.mpr ?_⟩
  have listed : n.toNat ∈ List.range' 1 made := each ▸ List.mem_map_of_mem member
  have reached : n.toNat ≤ made := by
    have := List.mem_range'_1.mp listed
    omega
  exact reached.trans follows.made_le

/-- An operation under a policy, whatever each of its calls would be: as many calls are made as
there are up to the first whose outcome stands, but no more than the policy allows and at least
one; one pause lies between two of them, none behind the last, whose outcome is that of the whole.
The counter of thirty-two bits has the values `1`, `2` and so on, one for each call, and the last
of them is not above what the policy allows.  Every run is of this kind. -/
theorem calls_until_one_stands (attempts : UInt32) (backoff : Duration) (retryable : ε → Bool)
    (operation : Dialogue Q R (Except ε α)) :
    run ⟨attempts.toNat, backoff⟩ retryable operation =
        (counting attempts backoff retryable operation 1).bind (fun r => .done r.1) ∧
      (∀ calls, Calls operation calls → ∃ made acts o values,
        (counting attempts backoff retryable operation 1).Runs acts (o, values) ∧
          Follows (max attempts 1).toNat backoff retryable calls made acts o ∧
          Counted attempts values made) ∧
      ∀ acts o values, (counting attempts backoff retryable operation 1).Runs acts (o, values) →
        ∃ calls made, Calls operation calls ∧
          Follows (max attempts 1).toNat backoff retryable calls made acts o ∧
          Counted attempts values made := by
  refine ⟨run_eq_counting, ?_, ?_⟩
  · intro calls possible
    obtain ⟨made, acts, o, values, runs, follows, each⟩ := counting_follows counted_one possible
    rw [Nat.sub_add_cancel one_le_max] at follows
    exact ⟨made, acts, o, values, runs, follows, follows.counted each⟩
  · intro acts o values runs
    obtain ⟨calls, made, possible, follows, each⟩ := follows_counting counted_one runs
    rw [Nat.sub_add_cancel one_le_max] at follows
    exact ⟨calls, made, possible, follows, follows.counted each⟩

def asking : Dialogue Unit (fun _ => Except Bool Nat) (Except Bool Nat) := .question ()

def thirdTimeLucky : Stream' (Call (fun _ : Unit => Except Bool Nat) Bool Nat) :=
  cons ⟨[.told () (.error true)], .error true⟩ (cons ⟨[.told () (.error true)], .error true⟩
    (cons ⟨[.told () (.ok 7)], .ok 7⟩ (.const ⟨[.told () (.ok 7)], .ok 7⟩)))

theorem calls_until_one_stands_thirdTimeLucky :
    Calls asking thirdTimeLucky ∧
      ∃ made acts o values,
        (counting 5 (.ofSecs 1) id asking 1).Runs acts (o, values) ∧
          Follows 5 (.ofSecs 1) id thirdTimeLucky made acts o ∧ Counted 5 values made ∧
          made = 3 ∧ o = .ok 7 := by
  have possible : Calls asking thirdTimeLucky :=
    .cons (.ask (.done _)) (.cons (.ask (.done _)) (.cons (.ask (.done _)) fun _ => .ask (.done _)))
  obtain ⟨made, acts, o, values, runs, follows, counted⟩ :=
    (calls_until_one_stands 5 (.ofSecs 1) id asking).2.1 _ possible
  have lucky : Follows 5 (.ofSecs 1) id thirdTimeLucky 3 _ (.ok 7) :=
    .cons rfl (.cons rfl (.one (Or.inr rfl)))
  obtain rfl : made = 3 := Nat.cast_injective (follows.count.trans lucky.count.symm)
  exact ⟨possible, 3, acts, o, values, runs, follows, counted, rfl, (follows.unique lucky).2⟩

end Counter

end RetryPolicy

end Leasehold
