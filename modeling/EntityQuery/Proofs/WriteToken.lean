import EntityQuery.Proofs.Exchange
import EntityQuery.Proofs.Outcome
import EntityQuery.Transport.Session

/-!
# The token of a session

A session is followed request by request, each with what went over the wire for it
(`Session.turns`). What a request sends and how it leaves the token is one of four cases
(`Turn.Follows`): it only reads, it writes with the token that is there, or it asks for a token
first, which it then has or fails without. So over a whole run the first token that is handed out is
the one that all writes carry from then on, and the last one that is asked for
(`Session.turns_token`).
-/

namespace EntityQuery

variable {ω : Type}

theorem Headers.lookup_put (hs : Headers) (name value : String) :
    (hs.put name value).lookup name = some value := by
  induction hs with
  | nil => simp [put]
  | cons h hs ih =>
    rw [put]
    split_ifs with hname
    · simp
    · rw [List.lookup_cons, beq_false_of_ne (Ne.symm hname)]
      exact ih

/-- The server with a log of its calls and answers, in order. -/
def Server.logged (server : Server ω) : Server (ω × List (Call × Response)) := fun c (s, log) =>
  let (answer, s') := server c s
  (answer, (s', log ++ [(c, answer)]))

/-- The token that an answer hands out. -/
def Response.token? (r : Response) : Option String :=
  if 400 ≤ r.status then none else nonEmpty? (r.headers.get? "x-csrf-token")

namespace Config

/-- The call that asks for a token. -/
def fetchCall (c : Config) : Call :=
  { method := "GET", url := c.url "", headers := [("X-CSRF-Token", "Fetch")] }

/-- The call of a request, with given headers. -/
def callOf (c : Config) (r : Request) (headers : Headers) : Call :=
  { method := r.method, url := c.url r.encodedUri, headers := headers, body := r.body }

/-- The call of a request with a token. -/
def tokenCall (c : Config) (r : Request) (token : String) : Call :=
  c.callOf r (r.headers.put "X-CSRF-Token" token)

/-- What is reported where an answer hands out no token. -/
def fetchFault (c : Config) (answer : Response) : ServiceError :=
  if 400 ≤ answer.status then ⟨answer.status, answer.errorText, c.url "", answer.headers⟩
  else ⟨400, Session.missingToken, c.url "", answer.headers⟩

end Config

/-- A request with what went over the wire for it, call by call, how it ended, and the token that
the session had then. -/
structure Turn where
  request : Request
  exchanged : List (Call × Response)
  outcome : Except Error Response
  token : Option String
  deriving DecidableEq

/-- What a turn does in a session with a token or without one. -/
inductive Turn.Follows (c : Config) : Option String → Turn → Prop
  | read {token? : Option String} {r : Request} {answer : Response}
      (hr : Session.isRead r.method = true) :
      Follows c token? ⟨r, [(c.callOf r r.headers, answer)],
        Session.accepted (c.url r.encodedUri) answer, token?⟩
  | write {token : String} {r : Request} {answer : Response}
      (hr : Session.isRead r.method = false) :
      Follows c (some token) ⟨r, [(c.tokenCall r token, answer)],
        Session.accepted (c.url r.encodedUri) answer, some token⟩
  | first {token : String} {r : Request} {fetched answer : Response}
      (hr : Session.isRead r.method = false) (htoken : fetched.token? = some token) :
      Follows c none ⟨r, [(c.fetchCall, fetched), (c.tokenCall r token, answer)],
        Session.accepted (c.url r.encodedUri) answer, some token⟩
  | refused {r : Request} {fetched : Response} (hr : Session.isRead r.method = false)
      (htoken : fetched.token? = none) :
      Follows c none ⟨r, [(c.fetchCall, fetched)], .error (.service (c.fetchFault fetched)), none⟩

namespace Turn

variable {c : Config} {t : Turn} {turns : List Turn} {token? : Option String} {token : String}

/-- The token that was asked for and handed out in a turn. A read asks for none, also where its own
call looks as if it did. -/
def fetched? (c : Config) (t : Turn) : Option String :=
  if Session.isRead t.request.method then none
  else t.exchanged.findSome? fun x => if x.1 = c.fetchCall then x.2.token? else none

/-- The first token that is handed out in a run. -/
def firstToken (c : Config) (turns : List Turn) : Option String := turns.findSome? (·.fetched? c)

theorem firstToken_cons : firstToken c (t :: turns) = (t.fetched? c).or (firstToken c turns) := by
  rw [firstToken, List.findSome?_cons]
  cases t.fetched? c <;> rfl

theorem firstToken_concat :
    firstToken c (turns ++ [t]) = (firstToken c turns).or (t.fetched? c) := by
  rw [firstToken, List.findSome?_append, ← firstToken, ← firstToken, firstToken_cons]
  exact congrArg _ (Option.or_none)

/-- A write's own call is no demand for a token. -/
theorem tokenCall_ne_fetchCall {r : Request} (hr : Session.isRead r.method = false) :
    c.tokenCall r token ≠ c.fetchCall := by
  intro heq
  have hmethod : r.method = "GET" := congrArg Call.method heq
  rw [hmethod] at hr
  revert hr
  decide +kernel

/-- A turn keeps the token that is there, or takes the one that it fetched. -/
theorem Follows.token_eq (h : t.Follows c token?) : t.token = token?.or (t.fetched? c) := by
  cases h with
  | read hr => rw [fetched?, if_pos hr, Option.or_none]
  | write hr => rfl
  | first hr htoken =>
    rw [fetched?, if_neg (Bool.eq_false_iff.1 hr), List.findSome?_cons, if_pos rfl, htoken]
    rfl
  | refused hr htoken =>
    rw [fetched?, if_neg (Bool.eq_false_iff.1 hr), List.findSome?_cons, if_pos rfl, htoken]
    rfl

theorem Follows.exchanged_of_read (h : t.Follows c token?)
    (hr : Session.isRead t.request.method = true) :
    ∃ answer, t.exchanged = [(c.callOf t.request t.request.headers, answer)] := by
  cases h with
  | read _ => exact ⟨_, rfl⟩
  | write hw | first hw _ | refused hw _ => exact absurd hr (Bool.eq_false_iff.1 hw)

/-- What a write sends is a demand for a token or has the one that there is then. -/
theorem Follows.call_of_write (h : t.Follows c token?)
    (hr : Session.isRead t.request.method = false) {x : Call × Response} (hx : x ∈ t.exchanged) :
    x.1 = c.fetchCall ∨ ∃ token, t.token = some token ∧ x.1 = c.tokenCall t.request token := by
  cases h with
  | read hread => exact absurd hread (Bool.eq_false_iff.1 hr)
  | write _ => exact .inr ⟨_, rfl, congrArg _ (List.mem_singleton.1 hx)⟩
  | first _ _ =>
    rcases List.mem_pair.1 hx with rfl | rfl
    · exact .inl rfl
    · exact .inr ⟨_, rfl, rfl⟩
  | refused _ _ => exact .inl (congrArg _ (List.mem_singleton.1 hx))

/-- A write is sent where there is a token, and ends as the answer says. -/
theorem Follows.sent_of_token (h : t.Follows c token?)
    (hr : Session.isRead t.request.method = false) (htoken : t.token = some token) :
    ∃ answer, (c.tokenCall t.request token, answer) ∈ t.exchanged ∧
      t.outcome = Session.accepted (c.url t.request.encodedUri) answer := by
  cases h with
  | read hread => exact absurd hread (Bool.eq_false_iff.1 hr)
  | write _ =>
    obtain rfl := Option.some.inj htoken
    exact ⟨_, List.mem_singleton_self _, rfl⟩
  | first _ _ =>
    obtain rfl := Option.some.inj htoken
    exact ⟨_, List.mem_cons_of_mem _ (List.mem_singleton_self _), rfl⟩
  | refused _ _ => cases htoken

theorem Follows.call_ne_fetchCall (h : t.Follows c (some token))
    (hr : Session.isRead t.request.method = false) {x : Call × Response} (hx : x ∈ t.exchanged) :
    x.1 ≠ c.fetchCall := by
  cases h with
  | read hread => exact absurd hread (Bool.eq_false_iff.1 hr)
  | write _ => exact List.mem_singleton.1 hx ▸ tokenCall_ne_fetchCall hr

/-- Where a token is refused, nothing else is sent and none is kept. -/
theorem Follows.refused_of_fetch (h : t.Follows c token?)
    (hr : Session.isRead t.request.method = false) {answer : Response}
    (hx : (c.fetchCall, answer) ∈ t.exchanged) (hnone : answer.token? = none) :
    t.exchanged = [(c.fetchCall, answer)] ∧
      t.outcome = .error (.service (c.fetchFault answer)) ∧ t.token = none := by
  cases h with
  | read hread => exact absurd hread (Bool.eq_false_iff.1 hr)
  | write _ =>
    exact absurd (Prod.mk.inj (List.mem_singleton.1 hx)).1.symm (tokenCall_ne_fetchCall hr)
  | first _ htoken =>
    rcases List.mem_pair.1 hx with heq | heq
    · rw [(Prod.mk.inj heq).2, htoken] at hnone
      cases hnone
    · exact absurd (Prod.mk.inj heq).1.symm (tokenCall_ne_fetchCall hr)
  | refused _ _ =>
    obtain rfl := (Prod.mk.inj (List.mem_singleton.1 hx)).2
    exact ⟨rfl, rfl, rfl⟩

end Turn

namespace Session

variable {server : Server ω} {c : Config} {r : Request} {s s' : Session ω} {service : ω}
  {answer : Response} {token : String}

theorem call_of_server {x : Call} (h : server x s.service = (answer, service)) :
    call server x s = (.ok answer, { s with service := service }) := by
  rw [call, h]

/-- Sends a request with the headers that it is to have. -/
theorem bind_call_accepted {headers : Headers}
    (h : server (c.callOf r headers) s.service = (answer, service)) :
    (do let answer ← call server (c.callOf r headers); accepted (c.url r.encodedUri) answer :
      Exchange (Session ω) Response) s =
        (accepted (c.url r.encodedUri) answer, { s with service := service }) := by
  rw [Exchange.bind_of_ok _ (call_of_server h)]
  exact Exchange.lift_apply _ _

theorem send_plain (hplain : (c.tokens && !isRead r.method) = false)
    (h : server (c.callOf r r.headers) s.service = (answer, service)) :
    send server c r s = (accepted (c.url r.encodedUri) answer, { s with service := service }) := by
  rw [send, hplain, if_neg Bool.false_ne_true, Exchange.bind_of_ok _ (Exchange.pure_apply _ _)]
  exact bind_call_accepted h

/-- A write carries the token that there is or that was obtained for it. -/
theorem send_of_token (hwrite : (c.tokens && !isRead r.method) = true)
    (htoken : ensureToken server c s = (.ok token, s'))
    (h : server (c.tokenCall r token) s'.service = (answer, service)) :
    send server c r s = (accepted (c.url r.encodedUri) answer, { s' with service := service }) := by
  rw [send, hwrite, if_pos rfl, Exchange.bind_of_ok _ htoken,
    Exchange.bind_of_ok _ (Exchange.pure_apply _ _)]
  exact bind_call_accepted h

theorem send_of_noToken (hwrite : (c.tokens && !isRead r.method) = true) {e : Error}
    (htoken : ensureToken server c s = (.error e, s')) : send server c r s = (.error e, s') := by
  rw [send, hwrite, if_pos rfl, Exchange.bind_of_error _ htoken]

theorem ensureToken_of_token (h : s.token = some token) :
    ensureToken server c s = (.ok token, s) := by
  have hget : (get : Exchange (Session ω) (Session ω)) s = (.ok s, s) := rfl
  rw [ensureToken, Exchange.bind_of_ok _ hget, h]
  rfl

/-- Without a token one is asked for, and kept if it is handed out. -/
theorem ensureToken_of_none (named : Nat) {before : ω}
    (h : server c.fetchCall before = (answer, service)) :
    ensureToken server c ⟨before, none, named⟩ = match answer.token? with
      | some token => (.ok token, ⟨service, some token, named⟩)
      | none => (.error (.service (c.fetchFault answer)), ⟨service, none, named⟩) := by
  have hget : (get : Exchange (Session ω) (Session ω)) ⟨before, none, named⟩ =
    (.ok ⟨before, none, named⟩, ⟨before, none, named⟩) := rfl
  rw [ensureToken, Exchange.bind_of_ok _ hget]
  dsimp only
  rw [fetchToken, Response.token?, Config.fetchFault, ← Config.fetchCall,
    Exchange.bind_of_ok _ (call_of_server h), accepted]
  split_ifs
  · rfl
  · rw [Exchange.lift_bind_of_ok _ rfl]
    cases nonEmpty? (answer.headers.get? "x-csrf-token") <;> rfl

/-- One request of a session, with the log of what it sends. -/
def turn (server : Server ω) (c : Config) (r : Request) (s : Session ω) : Turn × Session ω :=
  let (outcome, s') := send server.logged c r ⟨(s.service, []), s.token, s.named⟩
  (⟨r, s'.service.2, outcome, s'.token⟩, ⟨s'.service.1, s'.token, s'.named⟩)

theorem turn_of_send {outcome : Except Error Response} {log : List (Call × Response)}
    {token? : Option String} {named : Nat}
    (h : send server.logged c r ⟨(s.service, []), s.token, s.named⟩ =
      (outcome, ⟨(service, log), token?, named⟩)) :
    turn server c r s = (⟨r, log, outcome, token?⟩, ⟨service, token?, named⟩) := by
  rw [turn, h]

theorem server_logged {x : Call} {before : ω} (h : server x before = (answer, service))
    (log : List (Call × Response)) :
    server.logged x (before, log) = (answer, (service, log ++ [(x, answer)])) := by
  rw [Server.logged, h]

/-- A turn is of one of the four kinds, and ends as the request does without a log. -/
theorem follows_turn (hc : c.tokens = true) (server : Server ω) (r : Request) (s : Session ω) :
    ∃ t s', turn server c r s = (t, s') ∧ send server c r s = (t.outcome, s') ∧
      t.Follows c s.token ∧ t.token = s'.token := by
  obtain ⟨before, token?, named⟩ := s
  cases hr : isRead r.method with
  | true =>
    have hplain : (c.tokens && !isRead r.method) = false := by
      rw [hr, Bool.not_true, Bool.and_false]
    obtain ⟨⟨answer, after⟩, h⟩ : ∃ x, server (c.callOf r r.headers) before = x := ⟨_, rfl⟩
    exact ⟨_, _, turn_of_send (send_plain hplain (server_logged h [])), send_plain hplain h,
      .read hr, rfl⟩
  | false =>
    have hwrite : (c.tokens && !isRead r.method) = true := by rw [hc, hr]; rfl
    cases token? with
    | some token =>
      obtain ⟨⟨answer, after⟩, h⟩ : ∃ x, server (c.tokenCall r token) before = x := ⟨_, rfl⟩
      exact ⟨_, _, turn_of_send (send_of_token hwrite (ensureToken_of_token rfl)
        (server_logged h [])), send_of_token hwrite (ensureToken_of_token rfl) h, .write hr, rfl⟩
    | none =>
      obtain ⟨⟨fetched, asked⟩, hasked⟩ : ∃ x, server c.fetchCall before = x := ⟨_, rfl⟩
      have hplain := ensureToken_of_none named hasked
      have hlogged := ensureToken_of_none named (server_logged hasked [])
      cases htoken : fetched.token? with
      | none =>
        rw [htoken] at hplain hlogged
        exact ⟨_, _, turn_of_send (send_of_noToken hwrite hlogged), send_of_noToken hwrite hplain,
          .refused hr htoken, rfl⟩
      | some token =>
        rw [htoken] at hplain hlogged
        obtain ⟨⟨answer, after⟩, h⟩ : ∃ x, server (c.tokenCall r token) asked = x := ⟨_, rfl⟩
        exact ⟨_, _, turn_of_send (send_of_token hwrite hlogged (server_logged h _)),
          send_of_token hwrite hplain h, .first hr htoken, rfl⟩

/-- The turns of a run of requests. -/
def turns (server : Server ω) (c : Config) :
    List Request → Session ω → List Turn × Session ω
  | [], s => ([], s)
  | r :: rs, s =>
    let (t, s') := turn server c r s
    let (ts, s'') := turns server c rs s'
    (t :: ts, s'')

theorem follows_turns (hc : c.tokens = true) {rs : List Request} {before after : List Turn}
    {t : Turn} (h : (turns server c rs s).1 = before ++ t :: after) :
    t.Follows c (s.token.or (Turn.firstToken c before)) := by
  induction rs generalizing s before with
  | nil => exact absurd h.symm (List.append_ne_nil_of_right_ne_nil _ (List.cons_ne_nil _ _))
  | cons r rs ih =>
    obtain ⟨u, s', hturn, -, hfollows, htoken⟩ := follows_turn hc server r s
    rw [turns, hturn] at h
    cases before with
    | nil =>
      obtain rfl := (List.cons.inj h).1
      rwa [Turn.firstToken, List.findSome?_nil, Option.or_none]
    | cons v before =>
      obtain ⟨rfl, hrest⟩ := List.cons.inj h
      have hlater := ih hrest
      rwa [← htoken, hfollows.token_eq, Option.or_assoc, ← Turn.firstToken_cons] at hlater

/-- In any run of a fresh session that wants tokens, reads send what they are and nothing more. What
a write sends is a demand for a token or carries the first token that was handed out in the run,
and it is sent whenever there is one. Once there is one, no other is asked for. A demand that is
refused fails its write, which then is not sent, and leaves the session without a token. -/
theorem turns_token (hc : c.tokens = true) (server : Server ω) (service : ω) (rs : List Request)
    {before after : List Turn} {t : Turn}
    (h : (turns server c rs { service := service }).1 = before ++ t :: after) :
    (isRead t.request.method = true →
      ∃ answer, t.exchanged = [(c.callOf t.request t.request.headers, answer)]) ∧
    (isRead t.request.method = false →
      (∀ x ∈ t.exchanged, x.1 = c.fetchCall ∨
        ∃ token, Turn.firstToken c (before ++ [t]) = some token ∧
          x.1 = c.tokenCall t.request token ∧
          x.1.headers.lookup "X-CSRF-Token" = some token) ∧
      (∀ token, Turn.firstToken c (before ++ [t]) = some token →
        ∃ answer, (c.tokenCall t.request token, answer) ∈ t.exchanged ∧
          t.outcome = accepted (c.url t.request.encodedUri) answer) ∧
      (Turn.firstToken c before ≠ none → ∀ x ∈ t.exchanged, x.1 ≠ c.fetchCall) ∧
      ∀ answer, (c.fetchCall, answer) ∈ t.exchanged → answer.token? = none →
        t.exchanged = [(c.fetchCall, answer)] ∧
          t.outcome = .error (.service (c.fetchFault answer)) ∧ t.token = none) ∧
    t.token = Turn.firstToken c (before ++ [t]) := by
  have hfollows : t.Follows c (Turn.firstToken c before) := follows_turns hc h
  have htoken : t.token = Turn.firstToken c (before ++ [t]) := by
    rw [hfollows.token_eq, Turn.firstToken_concat]
  refine ⟨hfollows.exchanged_of_read, fun hr => ⟨fun x hx => ?_,
    fun token hfirst => hfollows.sent_of_token hr (htoken.trans hfirst), fun hsome x hx => ?_,
    fun answer => hfollows.refused_of_fetch hr⟩, htoken⟩
  · refine (hfollows.call_of_write hr hx).imp_right fun ⟨token, hown, hcall⟩ => ?_
    refine ⟨token, htoken ▸ hown, hcall, ?_⟩
    rw [hcall]
    exact Headers.lookup_put _ _ _
  · obtain ⟨token, hfirst⟩ := Option.ne_none_iff_exists'.1 hsome
    exact (hfirst ▸ hfollows).call_ne_fetchCall hr hx

def noteConfig : Config := { baseUrl := "https://notes.example/api", tokens := true }

def noteServer : Server (List Response) := fun _ answers => (answers.headD {}, answers.tail)

def noteTurns : List Turn :=
  let requests : List Request := [{ uri := "Notes" }, { method := "POST", uri := "Notes" },
    { method := "POST", uri := "Notes" }, { method := "DELETE", uri := "Notes(1)" }]
  let answers : List Response := [{ text := "[]" }, { status := 503, text := "later" },
    { headers := [("X-CSRF-Token", "t7")] }, { status := 201 }, { status := 204 }]
  (turns noteServer noteConfig requests { service := answers }).1

def noteTurn (i : Fin 4) : Turn := noteTurns.get (i.cast (by decide +kernel))

theorem turns_token_notes : noteTurns = [noteTurn 0, noteTurn 1, noteTurn 2, noteTurn 3] ∧
    (noteTurn 1).outcome =
      .error (.service ⟨503, "later", "https://notes.example/api/", []⟩) ∧
    (noteTurn 1).token = none ∧
    (∃ answer, (noteConfig.tokenCall (noteTurn 2).request "t7", answer) ∈
      (noteTurn 2).exchanged) ∧
    (∀ x ∈ (noteTurn 3).exchanged, x.1 ≠ noteConfig.fetchCall) ∧
    (noteTurn 3).token = some "t7" := by
  have hrun : noteTurns = [noteTurn 0, noteTurn 1, noteTurn 2, noteTurn 3] := by decide +kernel
  have hfirst : noteTurns = [noteTurn 0] ++ noteTurn 1 :: [noteTurn 2, noteTurn 3] := hrun
  have hsecond : noteTurns = [noteTurn 0, noteTurn 1] ++ noteTurn 2 :: [noteTurn 3] := hrun
  have hthird : noteTurns = [noteTurn 0, noteTurn 1, noteTurn 2] ++ noteTurn 3 :: [] := hrun
  obtain ⟨-, hrefused, -⟩ := turns_token rfl noteServer _ _ hfirst
  obtain ⟨-, hcreated, -⟩ := turns_token rfl noteServer _ _ hsecond
  obtain ⟨-, hdeleted, htoken⟩ := turns_token rfl noteServer _ _ hthird
  obtain ⟨-, houtcome, hnone⟩ := (hrefused (by decide +kernel)).2.2.2
    { status := 503, text := "later" } (by decide +kernel) (by decide +kernel)
  obtain ⟨answer, hsent, -⟩ := (hcreated (by decide +kernel)).2.1 "t7" (by decide +kernel)
  exact ⟨hrun, houtcome.trans (by decide +kernel), hnone, ⟨answer, hsent⟩,
    (hdeleted (by decide +kernel)).2.2.1 (by decide +kernel), htoken.trans (by decide +kernel)⟩

end Session

end EntityQuery
