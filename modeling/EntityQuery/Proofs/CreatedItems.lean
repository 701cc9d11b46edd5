import EntityQuery.Execution.Write
import EntityQuery.Proofs.AnswerRoundTrip
import EntityQuery.Proofs.Exchange
import EntityQuery.Proofs.Outcome

/-!
# Identifiers of created items

Rows are created by one request each, in order (`Query.createRequests_eq_ok`). Sent in one batch,
they are answered in one response, and an identifier is read from each of its answers
(`Query.create_eq_ok_iff`), however many there are. So the identifiers are those of the rows exactly
if there are as many answers as rows (`Query.create_identifies_iff`).
-/

namespace EntityQuery

variable {σ : Type}

theorem Exchange.mapM_lift_apply {α β : Type} (f : α → Except Error β) (xs : List α) (s : σ) :
    xs.mapM (fun x => (liftM (f x) : Exchange σ β)) s = (xs.mapM f, s) := by
  induction xs with
  | nil => rfl
  | cons x xs ih =>
    rw [List.mapM_cons, List.mapM_cons]
    cases hx : f x with
    | error e => rfl
    | ok y =>
      rw [Exchange.lift_bind_of_ok _ rfl]
      rcases hxs : xs.mapM f with e | ys <;> rw [hxs] at ih
      · rw [Exchange.bind_of_error _ ih]
        rfl
      · rw [Exchange.bind_of_ok _ ih]
        rfl

namespace Query

open Batch

variable {q : Query} {d : Dialect} {t : Transport σ} {rs : List Request} {s s' : σ}
  {answers : List PartResponse} {ids : List Value}

/-- The request that creates a row. -/
def creation (q : Query) (d : Dialect) (values : List (Attribute × Value)) :
    Except Error Request := do
  let body ← rowBody d.codec .create none values
  pure (jsonRequest "POST"
    ((nonEmpty? q.entity.options.createRequestDataAddress).getD q.entity.dataAddress)
    (← Path.wrap (q.entity.options.createRequestDataPath.getD "") (.map body)))

/-- A request that creates the item of a row. -/
def Creates (q : Query) (d : Dialect) (row : Row) (r : Request) : Prop :=
  ∃ values, writtenRow q.entity row = .ok values ∧ q.creation d values = .ok r

theorem createRequests_eq_ok (h : q.createRequests d = .ok rs) :
    List.Forall₂ (q.Creates d) q.rows rs := by
  obtain ⟨written, hwritten, h⟩ := Except.bind_eq_ok_iff.1 h
  have hrows := List.mapM_eq_ok_iff.1 (Except.mapError_eq_ok_iff.1 hwritten)
  have hrequests : List.Forall₂ (fun values r => q.creation d values = .ok r) written rs :=
    List.mapM_eq_ok_iff.1 h
  exact List.forall₂_exists_iff.2 ⟨written, hrows, hrequests⟩

theorem createRequests_of_write (hd : d.isOData = true)
    (h : q.writeRequests d .create = .ok rs) : q.createRequests d = .ok rs := by
  cases d <;> first | exact h | cases hd

/-- What comes back for several writes in one batch. -/
def answersOfBatch (t : Transport σ) (rs : List Request) : Exchange σ (List PartResponse) := do
  let service ← Batch.Service.ofUrl t.baseUrl
  let batchName ← t.freshName
  let changesetName ← t.freshName
  let answer ← t.send (← Batch.request service batchName changesetName rs)
  Batch.parse answer.text (some ((answer.headers.get? "Content-Type").getD ""))

theorem sendBatch_of_answers (h : answersOfBatch t rs s = (.ok answers, s'))
    (hok : firstFailure? answers = none) :
    sendBatch t rs s = (answers.mapM (·.json), s') := by
  have hsplit : sendBatch t rs = answersOfBatch t rs >>= fun parts =>
      (firstFailure? parts).elim (parts.mapM fun part => part.json) throw := by
    simp only [sendBatch, answersOfBatch, bind_assoc]
    refine bind_congr fun service => bind_congr fun batchName => bind_congr fun changesetName =>
      bind_congr fun r => bind_congr fun answer => bind_congr fun parts => ?_
    cases firstFailure? parts <;> rfl
  rw [hsplit, Exchange.bind_of_ok _ h, hok]
  exact Exchange.mapM_lift_apply _ _ _

def reportedId (q : Query) (d : Dialect) (p : PartResponse) : Except Error Value := do
  Body.createdId d q.entity (← p.json)

theorem create_of_answers (hd : d.isOData = true) (hbatch : q.entity.options.odataBatch = true)
    (hrequests : q.writeRequests d .create = .ok rs) (hne : rs ≠ [])
    (h : answersOfBatch t rs s = (.ok answers, s')) (hok : firstFailure? answers = none) :
    q.create d t s =
      (answers.mapM (·.json) >>= fun bodies => bodies.mapM (Body.createdId d q.entity), s') := by
  have hall : q.sendAll d t rs s = (answers.mapM (·.json), s') := by
    have huses : (q.usesBatch d && !rs.isEmpty) = true := by simp [usesBatch, hd, hbatch, hne]
    rw [sendAll, if_pos huses, sendBatch_of_answers h hok]
  rw [create, Exchange.lift_bind_of_ok _ hrequests]
  rcases hbodies : answers.mapM (·.json) with e | bodies <;> rw [hbodies] at hall ⊢
  · exact Exchange.bind_of_error _ hall
  · rw [Exchange.bind_of_ok _ hall]
    exact Exchange.mapM_lift_apply _ _ _

/-- An identifier is reported by each answer, and no others are given. -/
theorem create_eq_ok_iff (hd : d.isOData = true) (hbatch : q.entity.options.odataBatch = true)
    (hrequests : q.writeRequests d .create = .ok rs) (hne : rs ≠ [])
    (h : answersOfBatch t rs s = (.ok answers, s')) (hok : firstFailure? answers = none) :
    (q.create d t s).1 = .ok ids ↔
      List.Forall₂ (fun p id => q.reportedId d p = .ok id) answers ids := by
  have hsteps (p : PartResponse) (id : Value) : q.reportedId d p = .ok id ↔
      ∃ body, p.json = .ok body ∧ Body.createdId d q.entity body = .ok id :=
    Except.bind_eq_ok_iff
  rw [create_of_answers hd hbatch hrequests hne h hok, Except.bind_eq_ok_iff]
  simp only [hsteps, List.mapM_eq_ok_iff]
  exact List.forall₂_exists_iff.symm

/-- One identifier for each row, in order: the one that is reported by the answer at the place of
the request that creates the row. -/
structure Identifies (q : Query) (d : Dialect) (rs : List Request) (answers : List PartResponse)
    (ids : List Value) : Prop where
  length_eq : ids.length = q.rows.length
  reported : ∀ (i : Nat) (row : Row) (id : Value), q.rows[i]? = some row → ids[i]? = some id →
    ∃ (r : Request) (p : PartResponse), rs[i]? = some r ∧ q.Creates d row r ∧
      answers[i]? = some p ∧ q.reportedId d p = .ok id

/-- The identifiers that are given are those of the rows exactly if there are as many answers as
rows, or none are given since one cannot be read. -/
theorem create_identifies_iff (hd : d.isOData = true) (hbatch : q.entity.options.odataBatch = true)
    (hrows : q.rows ≠ []) (hrequests : q.writeRequests d .create = .ok rs)
    (h : answersOfBatch t rs s = (.ok answers, s')) (hok : firstFailure? answers = none) :
    (∀ ids, (q.create d t s).1 = .ok ids → q.Identifies d rs answers ids) ↔
      answers.length = q.rows.length ∨ ∃ p ∈ answers, ∀ id, q.reportedId d p ≠ .ok id := by
  have hcreates := createRequests_eq_ok (createRequests_of_write hd hrequests)
  have hne : rs ≠ [] := by
    rintro rfl
    exact hrows (List.forall₂_nil_right_iff.1 hcreates)
  have hids {ids : List Value} : (q.create d t s).1 = .ok ids ↔
      List.Forall₂ (fun p id => q.reportedId d p = .ok id) answers ids :=
    create_eq_ok_iff hd hbatch hrequests hne h hok
  constructor
  · intro hall
    by_contra hnot
    rw [not_or] at hnot
    push Not at hnot
    obtain ⟨ids, hreported⟩ := List.exists_forall₂ hnot.2
    exact hnot.1 (hreported.length_eq.trans (hall ids (hids.2 hreported)).length_eq)
  · intro hcount ids hrun
    obtain ⟨hsame, hget⟩ := List.forall₂_iff_get.1 (hids.1 hrun)
    obtain ⟨hrequests, hcreate⟩ := List.forall₂_iff_get.1 hcreates
    have hlength : answers.length = q.rows.length := by
      refine hcount.resolve_right ?_
      rintro ⟨p, hp, hunread⟩
      obtain ⟨i, hi, rfl⟩ := List.getElem_of_mem hp
      exact hunread _ (hget i hi (hsame ▸ hi))
    refine ⟨hsame.symm.trans hlength, fun i row id hrow hid => ?_⟩
    obtain ⟨hi, rfl⟩ := List.getElem?_eq_some_iff.1 hrow
    obtain ⟨hi', rfl⟩ := List.getElem?_eq_some_iff.1 hid
    exact ⟨rs[i], answers[i], List.getElem?_eq_getElem _, hcreate i hi (by omega),
      List.getElem?_eq_getElem _, hget i (by omega) hi'⟩

/-- A service that answers every batch with the same answers. -/
def answeringWith (answers : List Batch.Answer) : Transport Unit where
  baseUrl := "https://host/api/"
  send _ := pure {
    status := 202
    text := (mixed answers).text
    headers := [("Content-Type", "multipart/mixed; boundary=b")] }
  freshName := pure "1"

theorem answersOfBatch_answeringWith {answered : List Batch.Answer} {r : Request}
    (hr : Batch.request ⟨"host", "/api/"⟩ "1" "1" rs = .ok r) (hne : answered ≠ [])
    (h : ∀ a ∈ answered, ¬(delimiter "b").toList <:+: (a.text .returnFeed).toList) :
    answersOfBatch (answeringWith answered) rs () =
      (.ok (answered.map (Batch.Answer.received .returnFeed)), ()) := by
  have hservice : Batch.Service.ofUrl (answeringWith answered).baseUrl =
      .ok ⟨"host", "/api/"⟩ := by
    show Batch.Service.ofUrl "https://host/api/" = _
    decide +kernel
  rw [answersOfBatch, Exchange.lift_bind_of_ok _ hservice]
  show ((liftM (Batch.request ⟨"host", "/api/"⟩ "1" "1" rs) : Exchange Unit Request) >>= _) () = _
  rw [hr]
  show (liftM (Batch.parse (mixed answered).text (some "multipart/mixed; boundary=b")) :
    Exchange Unit (List PartResponse)) () = _
  rw [parse_mixed hne h]
  rfl

/-- The answer to a creation with a body. -/
def created (body : String) : Batch.Answer :=
  ⟨[answerType], typed_answerType, okLine,
    [⟨"Location", "items", by decide, separable_location⟩], body⟩

def createdResponse (body : String) : PartResponse := ⟨200, [("location", "items")], body⟩

def twoItems : Query where
  entity := {
    name := "items"
    dataAddress := "items"
    uidName := some "id"
    attributes := [{ name := "id", dataAddress := "id" }, { name := "name", dataAddress := "name" }]
    options := { odataBatch := true } }
  rows := [[("name", .str "a")], [("name", .str "b")]]

def twoCreations : List Request :=
  ["a", "b"].map fun name => jsonRequest "POST" "items" (.map [("name", .str name)])

theorem writeRequests_twoItems : twoItems.writeRequests .odata4 .create = .ok twoCreations := by
  decide +kernel

theorem answersOfBatch_twoCreations (bodies : List String) (hne : bodies ≠ [])
    (hapart : ∀ a ∈ bodies.map created,
      ¬(delimiter "b").toList <:+: (a.text .returnFeed).toList)
    (hreceived : (bodies.map created).map (Batch.Answer.received .returnFeed) =
      bodies.map createdResponse) :
    answersOfBatch (answeringWith (bodies.map created)) twoCreations () =
      (.ok (bodies.map createdResponse), ()) := by
  obtain ⟨r, hr⟩ : ∃ r, Batch.request ⟨"host", "/api/"⟩ "1" "1" twoCreations = .ok r := ⟨_, rfl⟩
  rw [answersOfBatch_answeringWith hr (by simpa using hne) hapart, hreceived]

/-- Two answers report the two items, the second one without an identifier. -/
theorem create_identifies_twoItems :
    twoItems.Identifies .odata4 twoCreations (["\x7b\"id\":7\x7d", ""].map createdResponse)
        [.int 7, .null] ∧
      (twoItems.create .odata4 (answeringWith (["\x7b\"id\":7\x7d", ""].map created)) ()).1 =
        .ok [.int 7, .null] := by
  have hanswers := answersOfBatch_twoCreations ["\x7b\"id\":7\x7d", ""]
    (List.cons_ne_nil _ _) (by decide +kernel) (by decide +kernel)
  have hrun : (twoItems.create .odata4
      (answeringWith (["\x7b\"id\":7\x7d", ""].map created)) ()).1 = .ok [.int 7, .null] :=
    (create_eq_ok_iff rfl rfl writeRequests_twoItems (List.cons_ne_nil _ _) hanswers
      (by decide)).2 (.cons (by decide +kernel) (.cons (by decide +kernel) .nil))
  exact ⟨(create_identifies_iff rfl rfl (List.cons_ne_nil _ _) writeRequests_twoItems hanswers
    (by decide)).2 (.inl rfl) _ hrun, hrun⟩

/-- One answer for two items gives one identifier. -/
theorem create_twoItems_short :
    (twoItems.create .odata4 (answeringWith (["\x7b\"id\":7\x7d"].map created)) ()).1 =
        .ok [.int 7] ∧
      twoItems.rows.length = 2 := by
  have hanswers := answersOfBatch_twoCreations ["\x7b\"id\":7\x7d"]
    (List.cons_ne_nil _ _) (by decide +kernel) (by decide +kernel)
  exact ⟨(create_eq_ok_iff rfl rfl writeRequests_twoItems (List.cons_ne_nil _ _) hanswers
    (by decide)).2 (.cons (by decide +kernel) .nil), rfl⟩

end Query

end EntityQuery
