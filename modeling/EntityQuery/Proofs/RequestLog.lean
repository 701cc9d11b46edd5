import EntityQuery.Execution.Read
import EntityQuery.Proofs.Exchange
import Mathlib.Data.List.Forall2

/-!
# The requests of a read

`Transport.logged` keeps a log of the requests that are sent. The plans of a read send theirs in
order, one for each, and stop only where one fails (`Plan.log_fetchAll`).
-/

namespace EntityQuery

namespace Transport

variable {σ : Type}

/-- The transport with a log of the requests, in the order in which they are sent. -/
def logged (t : Transport σ) : Transport (σ × List Request) where
  baseUrl := t.baseUrl
  send r := fun (s, log) =>
    let (answer, s') := t.send r s
    (answer, (s', log ++ [r]))
  freshName := fun (s, log) =>
    let (name, s') := t.freshName s
    (name, (s', log))

/-- The service answers a request, whenever it is sent, with rows that can be read from the
answer. -/
def Answers (t : Transport σ) (d : Dialect) (q : Query) (itemScoped : Bool) (r : Request)
    (rows : List Row) : Prop :=
  ∀ s, ∃ answer body count s', t.send r s = (.ok answer, s') ∧ Body.ofResponse d answer = .ok body ∧
    body.rows d q itemScoped = .ok rows ∧ body.count d q.entity = .ok count

theorem send_logged (t : Transport σ) (r : Request) (s : σ) (log : List Request) :
    t.logged.send r (s, log) = ((t.send r s).1, ((t.send r s).2, log ++ [r])) := rfl

end Transport

namespace Plan

variable {σ : Type} {d : Dialect} {p : Plan} {plans : List Plan} {t : Transport σ}
  {itemScoped : Bool}

/-- The request of a plan is answered with given rows. -/
def AnsweredWith (p : Plan) (d : Dialect) (t : Transport σ) (itemScoped : Bool)
    (rows : List Row) : Prop :=
  ∃ request, p.readRequest? d = .ok (some request) ∧ t.Answers d p.query itemScoped request rows

theorem fetch?_of_answer {request : Request} {answer : Response} {body : Body} {rows : List Row}
    {count : Option Int} {s s' : σ} (hr : p.readRequest? d = .ok (some request))
    (hsend : t.send request s = (.ok answer, s')) (hbody : Body.ofResponse d answer = .ok body)
    (hrows : body.rows d p.query itemScoped = .ok rows)
    (hcount : body.count d p.entity = .ok count) :
    p.fetch? d t itemScoped s = (.ok (some ⟨request, rows, count⟩), s') := by
  rw [fetch?, Exchange.lift_bind_of_ok _ hr]
  show (t.send request >>= _) s = _
  rw [Exchange.bind_of_ok _ hsend, Exchange.lift_bind_of_ok _ hbody,
    Exchange.lift_bind_of_ok _ hrows, Exchange.lift_bind_of_ok _ hcount]
  rfl

/-- Where every request is answered, the rows of all answers come in the order of the plans. -/
theorem fetchAll_of_answers {answers : List (List Row)}
    (h : List.Forall₂ (fun p rows => p.AnsweredWith d t itemScoped rows) plans answers) (s : σ) :
    ∃ fetched s', fetchAll d t itemScoped plans s = (.ok fetched, s') ∧
      fetched.map (·.rows) = answers := by
  induction h generalizing s with
  | nil => exact ⟨[], s, rfl, rfl⟩
  | @cons p rows plans answers hone _ ih =>
    obtain ⟨request, hr, ha⟩ := hone
    obtain ⟨answer, body, count, s₁, hsend, hbody, hread, hcount⟩ := ha s
    have hfetch := fetch?_of_answer hr hsend hbody hread hcount
    obtain ⟨fetched, s₂, hothers, hrows⟩ := ih s₁
    refine ⟨⟨request, rows, count⟩ :: fetched, s₂, ?_, by rw [List.map_cons, hrows]⟩
    rw [fetchAll, Exchange.bind_of_ok _ hfetch, Exchange.bind_of_ok _ hothers]
    rfl

/-- A plan sends its request, whatever becomes of the answer. -/
theorem log_fetch? {request : Request} (hr : p.readRequest? d = .ok (some request))
    (t : Transport σ) (itemScoped : Bool) (s : σ) (log : List Request) :
    p.fetch? d t.logged itemScoped (s, log) =
      ((p.fetch? d t itemScoped s).1, ((p.fetch? d t itemScoped s).2, log ++ [request])) := by
  have hsend := t.send_logged request s log
  rw [fetch?, fetch?, Exchange.lift_bind_of_ok _ hr, Exchange.lift_bind_of_ok _ hr]
  show (t.logged.send request >>= _) (s, log) =
    (((t.send request >>= _) s).1, ((t.send request >>= _) s).2, log ++ [request])
  rcases hanswer : t.send request s with ⟨e | answer, s'⟩ <;> rw [hanswer] at hsend
  · rw [Exchange.bind_of_error _ hsend, Exchange.bind_of_error _ hanswer]
  · rw [Exchange.bind_of_ok _ hsend, Exchange.bind_of_ok _ hanswer]
    cases Body.ofResponse d answer with
    | error e => rfl
    | ok body =>
      rw [Exchange.lift_bind_of_ok _ rfl, Exchange.lift_bind_of_ok _ rfl]
      cases body.rows d p.query itemScoped with
      | error e => rfl
      | ok rows =>
        rw [Exchange.lift_bind_of_ok _ rfl, Exchange.lift_bind_of_ok _ rfl]
        cases body.count d p.entity <;> rfl

/-- Plans send their requests in order, up to the first one that fails. -/
theorem log_fetchAll {requests : List Request}
    (h : List.Forall₂ (fun p request => p.readRequest? d = .ok (some request)) plans requests)
    (t : Transport σ) (itemScoped : Bool) (s : σ) (log : List Request) : ∃ sent,
      fetchAll d t.logged itemScoped plans (s, log) =
        ((fetchAll d t itemScoped plans s).1, ((fetchAll d t itemScoped plans s).2, log ++ sent)) ∧
      sent <+: requests ∧
      ∀ fetched, (fetchAll d t itemScoped plans s).1 = .ok fetched → sent = requests := by
  induction h generalizing s log with
  | nil => exact ⟨[], by rw [List.append_nil]; rfl, List.prefix_refl _, fun _ _ => rfl⟩
  | @cons p request plans requests hr _ ih =>
    have hlog := log_fetch? hr t itemScoped s log
    rcases hfirst : p.fetch? d t itemScoped s with ⟨e | fetched, s₁⟩ <;> rw [hfirst] at hlog
    · refine ⟨[request], ?_, ⟨requests, rfl⟩, fun fetched hok => ?_⟩
      · rw [fetchAll, Exchange.bind_of_error _ hlog, fetchAll, Exchange.bind_of_error _ hfirst]
      · rw [fetchAll, Exchange.bind_of_error _ hfirst] at hok
        cases hok
    · obtain ⟨sent, hothers, hsent, hall⟩ := ih s₁ (log ++ [request])
      rw [List.append_assoc, List.singleton_append] at hothers
      refine ⟨request :: sent, ?_, List.prefix_cons_inj request |>.2 hsent, fun _ hok => ?_⟩
      · rw [fetchAll, Exchange.bind_of_ok _ hlog, fetchAll, Exchange.bind_of_ok _ hfirst]
        rcases hrest : fetchAll d t itemScoped plans s₁ with ⟨e | rest, s₂⟩ <;>
          rw [hrest] at hothers
        · rw [Exchange.bind_of_error _ hothers, Exchange.bind_of_error _ hrest]
        · rw [Exchange.bind_of_ok _ hothers, Exchange.bind_of_ok _ hrest]
          rfl
      · rw [fetchAll, Exchange.bind_of_ok _ hfirst] at hok
        rcases hrest : fetchAll d t itemScoped plans s₁ with ⟨e | rest, s₂⟩ <;> rw [hrest] at hall
        · rw [Exchange.bind_of_error _ hrest] at hok
          cases hok
        · rw [hall rest rfl]

end Plan

end EntityQuery
