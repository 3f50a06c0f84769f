import RequestDispatch.Handler.HandlerMethod

/-! # Asking containers

Whoever is given containers learns about them by asking. An inquiry is told here by its questions,
one after the other, each chosen on account of the answers before it. There is no other way from it
to the containers, so what it does to them is what its questions do, and those are on record. -/
namespace RequestDispatch

inductive Question where
  | names (ancestors : Bool)
  | typeOf (name : String)
  | bean (name : String)
  deriving DecidableEq, Repr

namespace Question

abbrev Answer : Question → Type
  | .names _ => List String
  | .typeOf _ => Except DispatchError BeanType
  | .bean _ => Except DispatchError Bean

def answer (c : Containers) : (q : Question) → q.Answer × Containers
  | .names ancestors => (c.names 0 ancestors, c)
  | .typeOf name => (c.typeOf 0 name, c)
  | .bean name => c.bean 0 name

def isRequest : Question → Bool
  | .bean _ => true
  | _ => false

end Question

inductive Asking (α : Type) where
  | done (a : α)
  | ask (q : Question) (next : q.Answer → Asking α)

structure Asked (α : Type) where
  value : α
  containers : Containers
  questions : List Question

def Asked.after {α : Type} (earlier : List Question) (later : Asked α) : Asked α :=
  { later with questions := earlier ++ later.questions }

namespace Asking

variable {α β : Type} {c : Containers} {p : Asking α}

def bind : Asking α → (α → Asking β) → Asking β
  | .done a, f => f a
  | .ask q next, f => .ask q fun answer => (next answer).bind f

instance : Monad Asking where
  pure := done
  bind := bind

def question (q : Question) : Asking q.Answer :=
  .ask q .done

def run : Asking α → Containers → Asked α
  | .done a, c => ⟨a, c, []⟩
  | .ask q next, c => ((next (q.answer c).1).run (q.answer c).2).after [q]

theorem run_question (q : Question) (c : Containers) :
    (question q).run c = ⟨(q.answer c).1, (q.answer c).2, [q]⟩ := rfl

def Quiet : Asking α → Prop
  | .done _ => True
  | .ask q next => q.isRequest = false ∧ ∀ answer, (next answer).Quiet

theorem quiet_pure (a : α) : (pure a : Asking α).Quiet := trivial

theorem quiet_question {q : Question} (h : q.isRequest = false) : (question q).Quiet :=
  ⟨h, fun _ => trivial⟩

theorem Quiet.bind (hp : p.Quiet) {f : α → Asking β} (hf : ∀ a, (f a).Quiet) :
    (p >>= f).Quiet := by
  induction p with
  | done a => exact hf a
  | ask q next ih => exact ⟨hp.1, fun answer => ih answer (hp.2 answer)⟩

theorem run_bind (p : Asking α) (f : α → Asking β) (c : Containers) :
    (p >>= f).run c =
      ((f (p.run c).value).run (p.run c).containers).after (p.run c).questions := by
  induction p generalizing c with
  | done a => rfl
  | ask q next ih =>
    have hnext := ih (q.answer c).1 (q.answer c).2
    exact congrArg (Asked.after [q]) hnext

/-- Without a request the containers stay as they are. -/
theorem Quiet.containers (hp : p.Quiet) (c : Containers) : (p.run c).containers = c := by
  induction p with
  | done a => rfl
  | ask q next ih =>
    have hanswer : (q.answer c).2 = c := by
      cases q with
      | names | typeOf => rfl
      | bean => cases hp.1
    have hnext := ih (q.answer c).1 (hp.2 _)
    rw [run, hanswer]
    exact hnext

theorem Quiet.questions (hp : p.Quiet) (c : Containers) :
    ∀ name, .bean name ∉ (p.run c).questions := by
  intro name
  induction p generalizing c with
  | done a => exact List.not_mem_nil
  | ask q next ih =>
    intro hmem
    rcases List.mem_cons.1 hmem with rfl | hlater
    · cases hp.1
    · exact ih _ (hp.2 _) _ hlater

theorem Quiet.value_bind (hp : p.Quiet) (f : α → Asking β) (c : Containers) :
    ((p >>= f).run c).value = ((f (p.run c).value).run c).value := by
  rw [run_bind, hp.containers]
  rfl

/-- Without a request, only the names and the types matter: neither what factories do nor which
beans have been created. -/
theorem Quiet.value_congr (hp : p.Quiet) {c c' : Containers} (hnames : c.names 0 = c'.names 0)
    (htypes : c.typeOf 0 = c'.typeOf 0) : (p.run c).value = (p.run c').value := by
  induction p with
  | done a => rfl
  | ask q next ih =>
    cases q with
    | names ancestors =>
      change ((next (c.names 0 ancestors)).run c).value =
        ((next (c'.names 0 ancestors)).run c').value
      rw [hnames]
      exact ih _ (hp.2 _)
    | typeOf name =>
      change ((next (c.typeOf 0 name)).run c).value = ((next (c'.typeOf 0 name)).run c').value
      rw [htypes]
      exact ih _ (hp.2 _)
    | bean => cases hp.1

/-- The inquiry computes `result` without requesting a bean, whatever it is answered. So no bean is
created, and what factories would do makes no difference. -/
structure Requestless (p : Asking α) (result : Containers → α) : Prop where
  quiet : p.Quiet
  value : ∀ c, (p.run c).value = result c
  unasked : ∀ c name, .bean name ∉ (p.run c).questions
  untouched : ∀ c, (p.run c).containers = c
  blind : ∀ c c', c.names 0 = c'.names 0 → c.typeOf 0 = c'.typeOf 0 → result c = result c'

theorem Quiet.requestless (hp : p.Quiet) {result : Containers → α}
    (hvalue : ∀ c, (p.run c).value = result c) : p.Requestless result where
  quiet := hp
  value := hvalue
  unasked := hp.questions
  untouched := hp.containers
  blind := by
    intro c c' hnames htypes
    rw [← hvalue c, ← hvalue c']
    exact hp.value_congr hnames htypes

end Asking

def HandlerMethod.resolving (h : HandlerMethod) : Asking (Except DispatchError HandlerMethod) :=
  match h.source with
  | .object _ => pure (.ok h)
  | .bean name => do
    match ← Asking.question (.bean name) with
    | .ok b => return .ok ⟨.object b, h.method, some name⟩
    | .error e => return .error e

def HandlerMethod.requests (h : HandlerMethod) : List Question :=
  (h.beanName?.map .bean).toList

theorem HandlerMethod.length_requests_le (h : HandlerMethod) : h.requests.length ≤ 1 := by
  rw [requests, Option.length_toList]
  split <;> decide

theorem HandlerMethod.run_resolving (h : HandlerMethod) (c : Containers) :
    h.resolving.run c = ⟨(h.resolve c).1, (h.resolve c).2, h.requests⟩ := by
  obtain ⟨source, method, via⟩ := h
  cases source with
  | object b => rfl
  | bean name =>
    unfold resolving resolve
    dsimp only
    rw [Asking.run_bind, Asking.run_question]
    dsimp only [Question.answer]
    rcases c.bean 0 name with ⟨e | b, c'⟩
    · rfl
    · rfl

structure Asked.Silent {α : Type} (run : Asked α) (c : Containers) : Prop where
  questions : run.questions = []
  containers : run.containers = c

structure Asked.For {α : Type} (run : Asked α) (c : Containers) (h : HandlerMethod) : Prop where
  questions : run.questions = h.requests
  containers : run.containers =
    match h.beanName? with
    | some name => (c.bean 0 name).2
    | none => c

theorem HandlerMethod.resolve_containers (h : HandlerMethod) (c : Containers) :
    (h.resolve c).2 =
      match h.beanName? with
      | some name => (c.bean 0 name).2
      | none => c := by
  obtain ⟨source, method, via⟩ := h
  cases source with
  | object b => rfl
  | bean name =>
    unfold resolve beanName?
    dsimp only
    rcases c.bean 0 name with ⟨e | b, c'⟩
    · rfl
    · rfl

end RequestDispatch
