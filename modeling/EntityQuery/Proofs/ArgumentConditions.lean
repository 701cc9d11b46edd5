import EntityQuery.Proofs.ExtraRow
import EntityQuery.Proofs.SentConjunction

/-!
# Conditions as arguments of a document

The arguments of a query document are put one after the other: those of the conditions that ask for
equality, and then those of the window. A later one takes the place of an earlier one of the same
name (`Row.get?_ofEntries_append`), and a condition with another comparator puts none, though one
with an address of its own counts as sent. So the document says all that it is meant to say exactly
if what is put under the argument of each condition is its value and nothing else
(`Plan.saidBy_iff`).
-/

namespace EntityQuery

/-- The argument of a document that is meant for a condition. -/
def Condition.argument? (c : Condition) : Option String :=
  nonEmpty? c.options.filterRemoteArgument

namespace FilterStyle

variable {t : FilterStyle} {c : Condition}

theorem isRemote_of_canSend (h : t.canSend c = true) : t.isRemote c = true := by
  rcases Bool.or_eq_true_iff.1 h with h | h
  · exact (Bool.and_eq_true_iff.1 h).2
  · by_contra hlocal
    unfold remoteParameter? at h
    rw [if_pos (by simpa using hlocal)] at h
    cases h

/-- Only a condition that asks for equality puts its argument. -/
theorem remoteParameter?_arguments (h : FilterStyle.arguments.isRemote c = true) :
    FilterStyle.arguments.remoteParameter? c =
      if c.comparator = .equals then c.argument? else none := by
  rw [remoteParameter?, h]
  rfl

end FilterStyle

section

variable {t : FilterStyle}

mutual

theorem Group.canSend_of_sendable : ∀ g : Group,
    g.sendable t = .ok true → ∀ c ∈ g.leaves, t.canSend c = true
  | .mk op fs gs, h => by
    obtain ⟨-, hfs, hgs⟩ := Group.members_of_sendable h
    rw [Group.leaves, List.forall_mem_append]
    exact ⟨filters_canSend_of_sendable fs hfs, groups_canSend_of_sendable gs hgs⟩

theorem Filter.canSend_of_sendable : ∀ f : Filter,
    f.sendable t = .ok true → ∀ c ∈ f.leaves, t.canSend c = true
  | .condition c, h => by
    rw [Filter.leaves, List.forall_mem_singleton]
    exact Except.ok.inj h
  | .compound g _, h => Group.canSend_of_sendable g h

theorem filters_canSend_of_sendable : ∀ fs : List Filter,
    filtersSendable t fs = .ok true → ∀ c ∈ leavesOfFilters fs, t.canSend c = true
  | [], _ => by simp [leavesOfFilters]
  | f :: fs, h => by
    rw [filtersSendable] at h
    obtain ⟨sent, hf, h⟩ := Except.bind_eq_ok_iff.1 h
    cases sent with
    | false => cases h
    | true =>
      rw [leavesOfFilters, List.forall_mem_append]
      exact ⟨Filter.canSend_of_sendable f hf, filters_canSend_of_sendable fs h⟩

theorem groups_canSend_of_sendable : ∀ gs : List Group,
    groupsSendable t gs = .ok true → ∀ c ∈ leavesOfGroups gs, t.canSend c = true
  | [], _ => by simp [leavesOfGroups]
  | g :: gs, h => by
    rw [groupsSendable] at h
    obtain ⟨sent, hg, h⟩ := Except.bind_eq_ok_iff.1 h
    cases sent with
    | false => cases h
    | true =>
      rw [leavesOfGroups, List.forall_mem_append]
      exact ⟨Group.canSend_of_sendable g hg, groups_canSend_of_sendable gs h⟩

end

end

/-- The arguments of a document say what a condition asks for. -/
def Condition.SaidBy (c : Condition) (arguments : Row) : Prop :=
  ∃ name, c.argument? = some name ∧ arguments.get? name = some c.value

namespace Plan

variable {q : Query} {p : Plan} {arguments : Row} {name : String} {v : Value}

/-- The arguments that the window of a document puts. -/
def windowEntries (p : Plan) (d : Dialect) : Except Error (List (String × Value)) := do
  if ← p.pagesRemotely d then
    pure ((d.windowArguments p.options p.query.offset p.query.limit).filterMap fun (name, n) =>
      name.map fun name => (name, .int n))
  else pure []

/-- A value that a document puts under a name: that of a condition that asks for equality, or what
the window asks for in the end. -/
def Puts (p : Plan) (name : String) (v : Value) : Prop :=
  (∃ c ∈ p.remote.leaves, c.comparator = .equals ∧ c.argument? = some name ∧ c.value = v) ∨
    ∃ window, p.windowEntries .graphql = .ok window ∧ (Row.ofEntries window).get? name = some v

theorem exists_windowEntries {d : Dialect} (h : p.documentArguments d = .ok arguments) :
    ∃ window, p.windowEntries d = .ok window ∧ arguments =
      window.foldl (fun row e => row.put e.1 e.2) (p.remote.arguments d.filterStyle) := by
  obtain ⟨remotely, hremotely, h⟩ := Except.bind_eq_ok_iff.1 h
  rw [windowEntries, Except.bind_of_ok _ hremotely]
  cases remotely with
  | false =>
    cases h
    exact ⟨[], rfl, rfl⟩
  | true =>
    cases h
    refine ⟨_, rfl, ?_⟩
    generalize p.remote.arguments d.filterStyle = row
    induction d.windowArguments p.options p.query.offset p.query.limit generalizing row with
    | nil => rfl
    | cons w window ih =>
      obtain ⟨name, n⟩ := w
      cases name <;> simp [ih]

/-- Every condition that is sent has an argument. -/
theorem isRemote_of_mem_remote (hp : Plan.of .graphql q = .ok p) :
    ∀ c ∈ p.remote.leaves, FilterStyle.arguments.isRemote c = true := by
  obtain ⟨filters, hsplit, hremote, -⟩ := of_eq_ok hp
  intro c hc
  rw [hremote] at hc
  exact FilterStyle.isRemote_of_canSend
    (Group.canSend_of_sendable _ (Group.sendable_remote hsplit) c hc)

theorem get?_documentArguments (h : p.documentArguments .graphql = .ok arguments) :
    ∃ window, p.windowEntries .graphql = .ok window ∧ ∀ name, arguments.get? name =
      ((Row.ofEntries window).get? name).or ((p.remote.arguments .arguments).get? name) := by
  obtain ⟨window, hwindow, rfl⟩ := exists_windowEntries h
  exact ⟨window, hwindow, fun name => Row.get?_foldl_put_eq _ _ _⟩

/-- What the conditions put under a name. -/
theorem mem_sent_iff (hp : Plan.of .graphql q = .ok p) :
    (name, v) ∈ p.remote.leaves.filterMap (fun c =>
        (FilterStyle.arguments.remoteParameter? c).map fun parameter => (parameter, c.value)) ↔
      ∃ c ∈ p.remote.leaves, c.comparator = .equals ∧ c.argument? = some name ∧ c.value = v := by
  rw [List.mem_filterMap]
  refine exists_congr fun c => and_congr_right fun hc => ?_
  rw [FilterStyle.remoteParameter?_arguments (isRemote_of_mem_remote hp c hc)]
  split_ifs with hequals <;> simp [hequals]

/-- What the arguments hold has been put, and where something has been put they hold something. -/
theorem puts_of_get? (hp : Plan.of .graphql q = .ok p)
    (h : p.documentArguments .graphql = .ok arguments) (hv : arguments.get? name = some v) :
    p.Puts name v := by
  obtain ⟨window, hwindow, hget⟩ := get?_documentArguments h
  rw [hget] at hv
  rcases Option.or_eq_some_iff.1 hv with hv | ⟨-, hv⟩
  · exact .inr ⟨window, hwindow, hv⟩
  · exact .inl ((mem_sent_iff hp).1 (Row.mem_of_get?_ofEntries hv))

theorem exists_get?_of_puts (hp : Plan.of .graphql q = .ok p)
    (h : p.documentArguments .graphql = .ok arguments) (hv : p.Puts name v) :
    ∃ w, arguments.get? name = some w := by
  obtain ⟨window, hwindow, hget⟩ := get?_documentArguments h
  rw [hget]
  rcases hv with hv | ⟨window', hwindow', hv⟩
  · obtain ⟨w, hw⟩ := Row.exists_get?_ofEntries ((mem_sent_iff hp).2 hv)
    have hsent : (p.remote.arguments .arguments).get? name = some w := hw
    cases hlast : (Row.ofEntries window).get? name with
    | some w' => exact ⟨w', rfl⟩
    | none => exact ⟨w, hsent⟩
  · cases hwindow.symm.trans hwindow'
    exact ⟨v, by rw [hv]; rfl⟩

/-- The arguments say what each condition asks for exactly if nothing but its value is put under its
argument. -/
theorem saidBy_iff (hp : Plan.of .graphql q = .ok p)
    (h : p.documentArguments .graphql = .ok arguments) :
    (∀ c ∈ p.remote.leaves, c.SaidBy arguments) ↔ ∀ c ∈ p.remote.leaves,
      ∃ name, c.argument? = some name ∧ ∀ v, p.Puts name v ↔ v = c.value := by
  constructor
  · intro hsaid c hc
    obtain ⟨name, hname, hvalue⟩ := hsaid c hc
    refine ⟨name, hname, fun v => ⟨?_, fun hv => hv ▸ puts_of_get? hp h hvalue⟩⟩
    rintro (⟨c', hc', -, hname', rfl⟩ | ⟨window, hwindow, hv⟩)
    · obtain ⟨name', hname'', hvalue'⟩ := hsaid c' hc'
      cases hname'.symm.trans hname''
      exact Option.some.inj (hvalue'.symm.trans hvalue)
    · obtain ⟨window', hwindow', hget⟩ := get?_documentArguments h
      cases hwindow.symm.trans hwindow'
      rw [hget, hv] at hvalue
      exact Option.some.inj hvalue
  · intro hputs c hc
    obtain ⟨name, hname, hvalue⟩ := hputs c hc
    obtain ⟨w, hw⟩ := exists_get?_of_puts hp h ((hvalue _).2 rfl)
    exact ⟨name, hname, by rw [hw, (hvalue w).1 (puts_of_get? hp h hw)]⟩

/-- A condition of the query is sent if it can be, or else left for evaluation after reading; it may
be both. -/
theorem sent_or_left (hp : Plan.of .graphql q = .ok p) {c : Condition} (hc : c ∈ q.filters.leaves) :
    (FilterStyle.arguments.canSend c = true ∧
        ∃ c' ∈ p.remote.leaves, c'.markLocal = c.markLocal) ∨
      ∃ c' ∈ p.localFilters.leaves, c'.markLocal = c.markLocal := by
  obtain ⟨filters, hsplit, hremote, hlocal, -⟩ := of_eq_ok hp
  by_contra hnone
  rw [not_or, not_and] at hnone
  have hall := (forall_leaves_split (P := fun c' => c'.markLocal ≠ c.markLocal)
    (fun c' => Iff.rfl) hsplit).2 ⟨?_, ?_⟩
  · exact hall c hc rfl
  · intro c' hc' hsame
    have hsent := Group.canSend_of_sendable _ (Group.sendable_remote hsplit) c' hc'
    have hcan : FilterStyle.arguments.canSend c = true := by
      show FilterStyle.arguments.canSend c.markLocal = true
      rw [← hsame]
      exact hsent
    exact hnone.1 hcan ⟨c', hremote ▸ hc', hsame⟩
  · intro c' hc' hsame
    exact hnone.2 ⟨c', hlocal ▸ hc', hsame⟩

end Plan

/-- Each condition of a query is sent or left for evaluation after reading, and only what can be
sent is. The arguments of the document say what the conditions that are sent ask for exactly if
nothing but its value is put under the argument of each, by a condition or by the window. -/
theorem documentArguments_say_iff {q : Query} {p : Plan} {r : Request}
    (hp : Plan.of .graphql q = .ok p) (h : p.readRequest? .graphql = .ok (some r)) :
    ∃ fields arguments, p.documentArguments .graphql = .ok arguments ∧
      r = Graphql.request p.options
        (Graphql.queryDocument (Graphql.readOperation p.entity) fields arguments) ∧
      (∀ c ∈ q.filters.leaves, (FilterStyle.arguments.canSend c = true ∧
          ∃ c' ∈ p.remote.leaves, c'.markLocal = c.markLocal) ∨
        ∃ c' ∈ p.localFilters.leaves, c'.markLocal = c.markLocal) ∧
      ((∀ c ∈ p.remote.leaves, c.SaidBy arguments) ↔ ∀ c ∈ p.remote.leaves,
        ∃ name, c.argument? = some name ∧ ∀ v, p.Puts name v ↔ v = c.value) := by
  obtain ⟨-, hnone⟩ | ⟨fields, arguments, harguments, hr⟩ := Plan.readRequest?_document_cases h
  · cases hnone
  · exact ⟨fields, arguments, harguments, Option.some.inj hr,
      fun c hc => Plan.sent_or_left hp hc, Plan.saidBy_iff hp harguments⟩

/-- Issues that are asked for by two arguments; one of them has an address of its own as well. -/
def issues : Entity where
  name := "issues"
  dataAddress := "issues"
  attributes :=
    [{ name := "status", dataAddress := "status"
       options := { filterRemoteArgument := some "status" } },
      { name := "state", dataAddress := "state"
        options :=
          { filterRemoteArgument := some "state", filterRemoteUrl := some "states/[#value#]" } }]

def issueCondition (name : String) (comparator : Comparator) (value : String) : Condition where
  target := ((issues.getAttribute? name).map Target.attribute).getD (.address name)
  comparator := comparator
  value := .str value

/-- The plan of a read whose conditions all count as sent. -/
def issuePlan (conditions : List Condition) : Plan where
  query := { entity := issues, filters := .mk .and (conditions.map .condition) [] }
  remote := .mk .and (conditions.map .condition) []

/-- A read by two conditions with an argument each. -/
def twoIssues : Plan :=
  issuePlan [issueCondition "status" .equals "open", issueCondition "state" .equals "new"]

theorem documentArguments_say_twoIssues : Plan.of .graphql twoIssues.query = .ok twoIssues ∧
    ∃ r arguments, twoIssues.readRequest? .graphql = .ok (some r) ∧
      twoIssues.documentArguments .graphql = .ok arguments ∧
      (issueCondition "status" .equals "open").SaidBy arguments ∧
      (issueCondition "state" .equals "new").SaidBy arguments := by
  have hr : twoIssues.readRequest? .graphql =
      .ok (some (Graphql.request {} (Graphql.queryDocument "issues" ["status", "state"]
        [("status", .str "open"), ("state", .str "new")]))) := by decide +kernel
  have hleaves : twoIssues.remote.leaves =
      [issueCondition "status" .equals "open", issueCondition "state" .equals "new"] := rfl
  have hwindow : twoIssues.windowEntries .graphql = .ok [] := by decide +kernel
  have hputs {c : Condition} {name : String} (hc : c ∈ twoIssues.remote.leaves)
      (hname : c.argument? = some name) (hequals : c.comparator = .equals)
      (hown : ∀ c' ∈ twoIssues.remote.leaves, c'.argument? = some name → c'.value = c.value) :
      ∃ name, c.argument? = some name ∧ ∀ v, twoIssues.Puts name v ↔ v = c.value := by
    refine ⟨name, hname, fun v => ⟨?_, ?_⟩⟩
    · rintro (⟨c', hc', -, hname', rfl⟩ | ⟨window, hwindow', hv⟩)
      · exact hown c' hc' hname'
      · cases hwindow.symm.trans hwindow'
        cases hv
    · rintro rfl
      exact .inl ⟨c, hc, hequals, hname, rfl⟩
  obtain ⟨fields, arguments, harguments, -, -, hsay⟩ :=
    documentArguments_say_iff (show Plan.of .graphql twoIssues.query = .ok twoIssues from rfl) hr
  have hstatus : (issueCondition "status" .equals "open").argument? = some "status" := rfl
  have hstate : (issueCondition "state" .equals "new").argument? = some "state" := rfl
  rw [hleaves] at hputs hsay
  have hsaid := hsay.2 (by
    rw [List.forall_mem_cons, List.forall_mem_singleton]
    exact ⟨hputs List.mem_cons_self hstatus rfl (by simp [hstate]),
      hputs (List.mem_cons_of_mem _ List.mem_cons_self) hstate rfl (by simp [hstatus])⟩)
  rw [List.forall_mem_cons, List.forall_mem_singleton] at hsaid
  exact ⟨rfl, _, arguments, hr, harguments, hsaid⟩

/-- A condition counts as sent, and the arguments of the document do not say what it asks for. -/
def Unsaid (conditions : List Condition) (arguments : Row) (c : Condition) : Prop :=
  let p := issuePlan conditions
  Plan.of .graphql p.query = .ok p ∧ p.readRequest? .graphql = .ok (some (Graphql.request {}
      (Graphql.queryDocument "issues" ["status", "state"] arguments))) ∧
    p.documentArguments .graphql = .ok arguments ∧ p.localFilters.leaves = [] ∧
    c ∈ p.remote.leaves ∧ ¬c.SaidBy arguments

/-- Of two conditions over one argument the last is sent, and of a condition that rules a value out
nothing, where it has an address of its own. -/
theorem documentArguments_unsaid :
    Unsaid [issueCondition "status" .equals "a", issueCondition "status" .equals "b"]
        [("status", .str "b")] (issueCondition "status" .equals "a") ∧
      Unsaid [issueCondition "state" .notEquals "a"] []
        (issueCondition "state" .notEquals "a") := by
  refine ⟨⟨rfl, by decide +kernel, by decide +kernel, rfl, List.mem_cons_self, ?_⟩,
    ⟨rfl, by decide +kernel, by decide +kernel, rfl, List.mem_cons_self, ?_⟩⟩
  · rintro ⟨name, hname, hvalue⟩
    cases hname
    exact absurd hvalue (by decide +kernel)
  · rintro ⟨name, hname, hvalue⟩
    cases hvalue

end EntityQuery
