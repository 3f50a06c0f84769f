import RequestDispatch.Chain.Run

/-!
# The protocol of a chain

What a chain does is described without the code that does it: `Execution` says what each call does
to the exchange, and `Ending` says which calls are made. A run is the work of an ending, which stops
at the first refusal or failure, followed by one completion of the interceptors that let the
request through. Interceptors and handler are arbitrary phases; nothing is assumed about them.
-/
namespace RequestDispatch.Chain

variable {D : Type} {c : Chain D} {handle : HandlerMethod → Phase D (Option ModelView)}

/-! ### What a call does -/

def logged (x : Exchange D) (event : LogEvent) : Exchange D :=
  { x with events := x.events ++ [event] }

def announced (c : Chain D) (x : Exchange D) : Exchange D :=
  logged x (.trace "Executing handler chain"
    [("handler", .text c.handler.text), ("interceptor_count", .number c.interceptors.length)])

/-- One call takes an exchange to another. Only a phase of the chain does that, apart from the
log and from the handler's model, which the phases after it find in the exchange. -/
inductive Step (c : Chain D) (handle : HandlerMethod → Phase D (Option ModelView)) :
    Exchange D → Call → Exchange D → Prop
  | proceed {x y : Exchange D} {k : Nat} {i : Interceptor D} (hi : c.interceptors[k]? = some i)
      (h : (i.before c.handler).run x = (.ok true, y)) : Step c handle x (.before k (.ok true)) y
  | stop {x y : Exchange D} {k : Nat} {i : Interceptor D} (hi : c.interceptors[k]? = some i)
      (h : (i.before c.handler).run x = (.ok false, y)) :
      Step c handle x (.before k (.ok false))
        (logged y (.debug "Interceptor stopped the chain" [("interceptor", .text i.name)]))
  | refuse {x y : Exchange D} {k : Nat} {i : Interceptor D} {e : DispatchError}
      (hi : c.interceptors[k]? = some i) (h : (i.before c.handler).run x = (.error e, y)) :
      Step c handle x (.before k (.error e)) y
  | handle {x y : Exchange D} {model : Option ModelView}
      (h : (handle c.handler).run x = (.ok model, y)) :
      Step c handle x (.handle none) { y with model := model }
  | handleFails {x y : Exchange D} {e : DispatchError}
      (h : (handle c.handler).run x = (.error e, y)) : Step c handle x (.handle (some e)) y
  | after {x y : Exchange D} {k : Nat} {i : Interceptor D} {answer : Except DispatchError Unit}
      (hi : c.interceptors[k]? = some i) (h : (i.after c.handler).run x = (answer, y)) :
      Step c handle x (.after k (failure? answer)) y
  | complete {x y : Exchange D} {k : Nat} {i : Interceptor D} {failure : Option DispatchError}
      (hi : c.interceptors[k]? = some i)
      (h : (i.completed c.handler failure).run x = (.ok (), y)) :
      Step c handle x (.completed k failure) y
  | completeFails {x y : Exchange D} {k : Nat} {i : Interceptor D} {failure : Option DispatchError}
      {e : DispatchError} (hi : c.interceptors[k]? = some i)
      (h : (i.completed c.handler failure).run x = (.error e, y)) :
      Step c handle x (.completed k failure)
        (logged y (.error "HandlerInterceptor::after_completion failed"
          [("interceptor", .text i.name), ("error", .text e.message)]))

inductive Execution (c : Chain D) (handle : HandlerMethod → Phase D (Option ModelView)) :
    Exchange D → List Call → Exchange D → Prop
  | nil (x : Exchange D) : Execution c handle x [] x
  | cons {x y z : Exchange D} {call : Call} {calls : List Call}
      (h : Step c handle x call y) (rest : Execution c handle y calls z) :
      Execution c handle x (call :: calls) z

theorem Execution.append {x y z : Exchange D} {calls more : List Call}
    (h : Execution c handle x calls y) (k : Execution c handle y more z) :
    Execution c handle x (calls ++ more) z := by
  induction h with
  | nil => exact k
  | cons h _ ih => exact .cons h (ih k)

theorem Execution.concat {x y z : Exchange D} {calls : List Call} {call : Call}
    (h : Execution c handle x calls y) (k : Step c handle y call z) :
    Execution c handle x (calls ++ [call]) z :=
  h.append (.cons k (.nil z))

/-! ### Which calls are made -/

/-- The interceptors below `k` let the request through. -/
def proceeds (k : Nat) : List Call :=
  (List.range k).map (Call.before · (.ok true))

def follows (n k : Nat) : List Call :=
  ((List.range n).drop k).reverse.map (Call.after · none)

def completions (k : Nat) (failure : Option DispatchError) : List Call :=
  (List.range k).reverse.map (Call.completed · failure)

theorem proceeds_succ (k : Nat) : proceeds (k + 1) = proceeds k ++ [.before k (.ok true)] := by
  simp [proceeds, List.range_succ]

theorem follows_self (n : Nat) : follows n n = [] := by
  simp [follows]

theorem follows_of_lt {n k : Nat} (h : k < n) :
    follows n k = follows n (k + 1) ++ [.after k none] := by
  have hk : k < (List.range n).length := by simpa using h
  simp [follows, List.drop_eq_getElem_cons hk]

theorem completions_succ (k : Nat) (failure : Option DispatchError) :
    completions (k + 1) failure = .completed k failure :: completions k failure := by
  simp [completions, List.range_succ]

/-- How a run can end. The indices are those of the interceptor that ended it. -/
inductive Ending where
  | stopped (k : Nat)
  | refused (k : Nat) (e : DispatchError)
  | handlerFailed (e : DispatchError)
  | followerFailed (k : Nat) (e : DispatchError)
  | finished

namespace Ending

def Within (n : Nat) : Ending → Prop
  | stopped k | refused k _ | followerFailed k _ => k < n
  | handlerFailed _ | finished => True

def work (n : Nat) : Ending → List Call
  | stopped k => proceeds k ++ [.before k (.ok false)]
  | refused k e => proceeds k ++ [.before k (.error e)]
  | handlerFailed e => proceeds n ++ [.handle (some e)]
  | followerFailed k e => proceeds n ++ [.handle none] ++ follows n (k + 1) ++ [.after k (some e)]
  | finished => proceeds n ++ [.handle none] ++ follows n 0

def passed (n : Nat) : Ending → Nat
  | stopped k | refused k _ => k
  | handlerFailed _ | followerFailed _ _ | finished => n

def failure : Ending → Option DispatchError
  | stopped _ | finished => none
  | refused _ e | handlerFailed e | followerFailed _ e => some e

def result (model : Option ModelView) : Ending → Except DispatchError ChainOutcome
  | stopped _ => .ok .shortCircuited
  | refused _ e | handlerFailed e | followerFailed _ e => .error e
  | finished => .ok (.completed model)

theorem Within.passed_le {n : Nat} {ending : Ending} (h : ending.Within n) :
    ending.passed n ≤ n := by
  cases ending with
  | stopped | refused => exact Nat.le_of_lt h
  | handlerFailed | followerFailed | finished => exact Nat.le_refl n

end Ending

/-! ### The runs that the code builds -/

def lastBelow : Nat → Option Nat
  | 0 => none
  | k + 1 => some k

/-- From the run `start` exactly these calls have been made, and the interceptors below `k` have let
the request through. -/
structure Reached (c : Chain D) (handle : HandlerMethod → Phase D (Option ModelView))
    (start : Run D) (calls : List Call) (k : Nat) (r : Run D) : Prop where
  calls_eq : r.calls = start.calls ++ calls
  passed_eq : r.passed = lastBelow k
  execution : Execution c handle start.exchange calls r.exchange

variable {start r : Run D} {calls : List Call} {k : Nat}

theorem reached_refl (h : r.passed = lastBelow k) : Reached c handle r [] k r where
  calls_eq := (List.append_nil _).symm
  passed_eq := h
  execution := .nil _

theorem Reached.step {call : Call} {y : Exchange D} (h : Reached c handle start calls k r)
    (hs : Step c handle r.exchange call y) :
    Reached c handle start (calls ++ [call]) k
      { r with exchange := y, calls := r.calls ++ [call] } where
  calls_eq := by simp [h.calls_eq]
  passed_eq := h.passed_eq
  execution := h.execution.concat hs

theorem call_eq {α : Type} {phase : Phase D α} {note : Except DispatchError α → Call}
    {answer : Except DispatchError α} {y : Exchange D} (h : phase.run r.exchange = (answer, y)) :
    r.call phase note = (answer, { r with exchange := y, calls := r.calls ++ [note answer] }) := by
  simp [Run.call, h]

theorem length_indexed (c : Chain D) : c.indexed.length = c.interceptors.length := by
  simp [indexed]

theorem take_indexed (c : Chain D) : c.indexed.take c.interceptors.length = c.indexed := by
  rw [← length_indexed, List.take_length]

theorem indexed_getElem (hk : k < c.indexed.length) :
    c.interceptors[k]? = some c.indexed[k].1 ∧ c.indexed[k].2 = k := by
  have hk' : k < c.interceptors.length := by simpa [length_indexed] using hk
  simp [indexed, hk']

/-- Going through the interceptors below `k + 1` in reverse begins with the one at `k`. -/
theorem reverse_take_succ (hk : k < c.interceptors.length) :
    ∃ i, c.interceptors[k]? = some i ∧
      (c.indexed.take (k + 1)).reverse = (i, k) :: (c.indexed.take k).reverse := by
  have hlt : k < c.indexed.length := by rwa [length_indexed]
  obtain ⟨hi, hindex⟩ := indexed_getElem hlt
  refine ⟨c.indexed[k].1, hi, ?_⟩
  have hlast : c.indexed[k] = (c.indexed[k].1, k) := Prod.ext rfl hindex
  rw [List.take_add_one, List.getElem?_eq_getElem hlt, Option.toList_some, List.reverse_append,
    List.reverse_singleton, List.singleton_append, ← hlast]

theorem passedBy_eq (h : r.passed = lastBelow k) : c.passedBy r = c.indexed.take k := by
  cases k <;> simp [passedBy, h, lastBelow]

/-- The completion of the interceptors below `k`, from the last one down. Whatever one of them
answers, the next one is told. -/
theorem completions_reached (c : Chain D) (handle : HandlerMethod → Phase D (Option ModelView))
    (failure : Option DispatchError) (hk : k ≤ c.interceptors.length) {m : Nat}
    (h : Reached c handle start calls m r) :
    Reached c handle start (calls ++ completions k failure) m
      ((c.indexed.take k).reverse.foldl (fun r (i, index) =>
        let (answer, r) := r.call (i.completed c.handler failure) fun _ => .completed index failure
        r.report "HandlerInterceptor::after_completion failed" i.name answer) r) := by
  induction k generalizing calls r with
  | zero => simpa [completions] using h
  | succ k ih =>
    obtain ⟨i, hi, hreverse⟩ := reverse_take_succ hk
    rw [hreverse, List.foldl_cons, completions_succ, List.append_cons]
    apply ih (Nat.le_of_succ_le hk)
    cases hp : (i.completed c.handler failure).run r.exchange with
    | mk answer y =>
      simp only [call_eq hp]
      cases answer with
      | ok => exact h.step (.complete hi hp)
      | error e => exact h.step (.completeFails hi hp)

theorem complete_reached (c : Chain D) (handle : HandlerMethod → Phase D (Option ModelView))
    (failure : Option DispatchError) (hk : k ≤ c.interceptors.length)
    (h : r.passed = lastBelow k) :
    Reached c handle r (completions k failure) k (c.complete failure r) := by
  rw [complete, passedBy_eq h]
  exact completions_reached c handle failure hk (reached_refl h)

/-- What the interceptors before the handler come to. One that stops the chain has completed it
already; after a failure that is still to be done. -/
inductive Opened (c : Chain D) (handle : HandlerMethod → Phase D (Option ModelView))
    (start : Run D) : Except DispatchError Bool × Run D → Prop
  | all {r : Run D}
      (h : Reached c handle start (proceeds c.interceptors.length) c.interceptors.length r) :
      Opened c handle start (.ok true, r)
  | stopped {r : Run D} {k : Nat} (hk : k < c.interceptors.length)
      (h : Reached c handle start ((Ending.stopped k).work c.interceptors.length) k r) :
      Opened c handle start (.ok false, c.complete none r)
  | refused {r : Run D} {k : Nat} {e : DispatchError} (hk : k < c.interceptors.length)
      (h : Reached c handle start ((Ending.refused k e).work c.interceptors.length) k r) :
      Opened c handle start (.error e, r)

theorem beforeFrom_opened {rest : List (Interceptor D × Nat)} (hrest : rest = c.indexed.drop k)
    (hk : k ≤ c.interceptors.length) (h : Reached c handle start (proceeds k) k r) :
    Opened c handle start (c.beforeFrom rest r) := by
  induction rest generalizing k r with
  | nil =>
    have hn : c.interceptors.length ≤ k := by
      simpa [length_indexed] using List.drop_eq_nil_iff.mp hrest.symm
    obtain rfl := Nat.le_antisymm hk hn
    exact .all h
  | cons head rest ih =>
    obtain ⟨i, index⟩ := head
    have hlt : k < c.indexed.length := by
      refine Nat.lt_of_not_le fun hle => ?_
      rw [List.drop_eq_nil_of_le hle] at hrest
      cases hrest
    rw [List.drop_eq_getElem_cons hlt] at hrest
    obtain ⟨hhead, htail⟩ := List.cons.inj hrest
    obtain ⟨hi, rfl⟩ : c.interceptors[k]? = some i ∧ index = k := by
      simpa [← hhead] using indexed_getElem hlt
    have hn : index < c.interceptors.length := by simpa [length_indexed] using hlt
    cases hp : (i.before c.handler).run r.exchange with
    | mk answer y =>
      simp only [beforeFrom, call_eq hp]
      match answer, hp with
      | .ok true, hp =>
        apply ih htail hn
        have hr := h.step (Step.proceed hi hp)
        exact ⟨by rw [hr.calls_eq, proceeds_succ], rfl, by
          rw [proceeds_succ]; exact hr.execution⟩
      | .ok false, hp => exact .stopped hn (h.step (.stop hi hp))
      | .error e, hp => exact .refused hn (h.step (.refuse hi hp))

inductive Followed (c : Chain D) (handle : HandlerMethod → Phase D (Option ModelView))
    (start : Run D) (calls : List Call) : Except DispatchError Unit × Run D → Prop
  | all {r : Run D}
      (h : Reached c handle start (calls ++ follows c.interceptors.length 0)
        c.interceptors.length r) :
      Followed c handle start calls (.ok (), r)
  | failed {r : Run D} {k : Nat} {e : DispatchError} (hk : k < c.interceptors.length)
      (h : Reached c handle start
        (calls ++ follows c.interceptors.length (k + 1) ++ [.after k (some e)])
        c.interceptors.length r) :
      Followed c handle start calls (.error e, r)

theorem afterFrom_followed (hk : k ≤ c.interceptors.length)
    (h : Reached c handle start (calls ++ follows c.interceptors.length k)
      c.interceptors.length r) :
    Followed c handle start calls (c.afterFrom (c.indexed.take k).reverse r) := by
  induction k generalizing r with
  | zero => simpa [afterFrom] using Followed.all h
  | succ k ih =>
    obtain ⟨i, hi, hreverse⟩ := reverse_take_succ hk
    rw [hreverse]
    cases hp : (i.after c.handler).run r.exchange with
    | mk answer y =>
      simp only [afterFrom, call_eq hp]
      have hr := h.step (Step.after hi hp)
      cases answer with
      | ok =>
        apply ih (Nat.le_of_succ_le hk)
        rw [follows_of_lt hk, ← List.append_assoc]
        exact hr
      | error e => exact .failed hk hr

theorem execute_announced (c : Chain D) (handle : HandlerMethod → Phase D (Option ModelView))
    (x : Exchange D) :
    c.execute handle { exchange := x } =
      match c.runHandler handle { exchange := c.announced x } with
      | (.ok .shortCircuited, r) => (.ok .shortCircuited, r)
      | (.ok outcome, r) => (.ok outcome, c.complete none r)
      | (.error e, r) => (.error e, c.complete (some e) r) := rfl

theorem execute_eq_complete (c : Chain D) (handle : HandlerMethod → Phase D (Option ModelView))
    (x : Exchange D) :
    ∃ (ending : Ending) (r : Run D), ending.Within c.interceptors.length ∧
      Reached c handle { exchange := c.announced x } (ending.work c.interceptors.length)
        (ending.passed c.interceptors.length) r ∧
      c.execute handle { exchange := x } =
        (ending.result r.exchange.model, c.complete ending.failure r) := by
  have hopened : Opened c handle { exchange := c.announced x }
      (c.beforeFrom c.indexed { exchange := c.announced x }) :=
    beforeFrom_opened List.drop_zero.symm (Nat.zero_le _) (reached_refl rfl)
  rw [execute_announced]
  simp only [runHandler, before]
  generalize c.beforeFrom c.indexed _ = opened at hopened
  cases hopened with
  | stopped hk h => exact ⟨.stopped _, _, hk, h, rfl⟩
  | refused hk h => exact ⟨.refused _ _, _, hk, h, rfl⟩
  | @all r h =>
    cases hp : (handle c.handler).run r.exchange with
    | mk answer y =>
      simp only [call_eq hp]
      cases answer with
      | error e => exact ⟨.handlerFailed e, _, trivial, h.step (.handleFails hp), rfl⟩
      | ok model =>
        have hr := h.step (Step.handle hp)
        have hfollowed := afterFrom_followed (Nat.le_refl _)
          (by rw [follows_self, List.append_nil]; exact hr)
        rw [take_indexed] at hfollowed
        simp only [after, failure?]
        generalize c.afterFrom c.indexed.reverse _ = followed at hfollowed
        cases hfollowed with
        | all h => exact ⟨.finished, _, trivial, h, rfl⟩
        | failed hk h => exact ⟨.followerFailed _ _, _, hk, h, rfl⟩

/-- A chain that has not run yet makes the calls of one ending, each of them the phase it is named
for, on the exchange its predecessor left. The result is that of the ending. The completion comes
once, with the error of the ending, for exactly those that let the request through, and nothing
that happens in it reaches the result. -/
theorem execute_follows_protocol (c : Chain D)
    (handle : HandlerMethod → Phase D (Option ModelView)) (x : Exchange D) :
    let n := c.interceptors.length
    let (result, r) := c.execute handle { exchange := x }
    ∃ (ending : Ending) (between : Exchange D), ending.Within n ∧
      result = ending.result between.model ∧
      r.calls = ending.work n ++ completions (ending.passed n) ending.failure ∧
      r.passed = lastBelow (ending.passed n) ∧
      Execution c handle (c.announced x) (ending.work n) between ∧
      Execution c handle between (completions (ending.passed n) ending.failure) r.exchange := by
  obtain ⟨ending, r, hwithin, hr, hrun⟩ := execute_eq_complete c handle x
  have hdone := complete_reached c handle ending.failure hwithin.passed_le hr.passed_eq
  rw [hrun]
  refine ⟨ending, r.exchange, hwithin, rfl, ?_, hdone.passed_eq, hr.execution, hdone.execution⟩
  rw [hdone.calls_eq, hr.calls_eq, List.nil_append]

end RequestDispatch.Chain
