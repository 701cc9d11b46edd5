import EntityQuery.Proofs.Deletion

/-!
# Which item an update goes to

Each row to write has a request of its own. A row with an identifier goes to its own item. One
without takes an identifier from the filter, or fails for want of one; but the identifiers that are
handed out come from the rows as soon as one of them has an identifier, and a single one is handed
to every row (`Query.addressedRightly_iff`).
-/

namespace EntityQuery

open Text

namespace Query

variable {q : Query} {d : Dialect} {uid : String} {row : Row} {u : Value}

/-- The identifiers that rows carry. -/
def carried (q : Query) (uid : String) : List Value := q.rows.filterMap (present? · uid)

/-- The first condition over the identifier names a value. -/
def Names (q : Query) (uid : String) (u : Value) : Prop :=
  ∃ c values, q.filters.find? uid = some c ∧ c.values = .ok values ∧ u ∈ values

/-- Addressing a row ends in an error of the query. -/
def Refuses (q : Query) (d : Dialect) (row : Row) (u : Value) : Prop :=
  ∃ e, itemUri d q.entity u row q.entity.options.updateRequestDataAddress = .error (.query e)

/-- A row is addressed by its own identifier, or else by one that the filter names, or else
refused. -/
def AddressedRightly (q : Query) (d : Dialect) (uid : String) (row : Row) (u : Value) : Prop :=
  match present? row uid with
  | some own => u = own
  | none => q.Names uid u ∨ q.Refuses d row u

/-- One request for each row, to the address of the identifier that the row is given. -/
theorem itemUri_of_updateRequests {requests : List Request}
    (h : q.updateRequests d = .ok requests) :
    ∃ uids, q.uidValues = .ok uids ∧ requests.length = q.rows.length ∧
      ∀ i row r, q.rows[i]? = some row → requests[i]? = some r →
        itemUri d q.entity (q.rowUid uids i row) row
          q.entity.options.updateRequestDataAddress = .ok r.uri := by
  obtain ⟨uids, huids, h⟩ := Except.bind_eq_ok_iff.1 h
  obtain ⟨written, hwritten, h⟩ := Except.bind_eq_ok_iff.1 h
  have hlength := (List.mapM_eq_ok_iff.1 (Except.mapError_eq_ok_iff.1 hwritten)).length_eq
  obtain ⟨hsame, hget⟩ := List.forall₂_iff_get.1 (List.mapM_eq_ok_iff.1 h)
  have hrequests : requests.length = q.rows.length := by
    rw [← hsame, List.length_zipIdx, List.length_zip, ← hlength, Nat.min_self]
  refine ⟨uids, huids, hrequests, fun i row r hrow hr => ?_⟩
  obtain ⟨hi, rfl⟩ := List.getElem?_eq_some_iff.1 hrow
  obtain ⟨hi', rfl⟩ := List.getElem?_eq_some_iff.1 hr
  have hstep := hget i (by omega) hi'
  simp only [List.get_eq_getElem, List.getElem_zipIdx, List.getElem_zip, Nat.zero_add] at hstep
  obtain ⟨uri, huri, hstep⟩ := Except.bind_eq_ok_iff.1 hstep
  obtain ⟨body, -, hstep⟩ := Except.bind_eq_ok_iff.1 hstep
  obtain ⟨wrapped, -, hstep⟩ := Except.bind_eq_ok_iff.1 hstep
  have hrequest : requests[i] = _ := (Except.ok.inj hstep).symm
  rw [hrequest]
  exact huri

theorem uidValues_of_carried (huid : q.entity.uid? = some uid) (h : q.carried uid ≠ []) :
    q.uidValues = .ok (q.carried uid) := by
  unfold carried at h ⊢
  rw [uidValues, huid]
  cases hc : q.rows.filterMap (present? · uid) with
  | nil => exact absurd hc h
  | cons v vs => simp only [hc]

theorem not_names_of_isMissing (h : u.isMissing = true) : ¬q.Names uid u := by
  rintro ⟨c, values, -, hvalues, hu⟩
  rw [Condition.values] at hvalues
  split_ifs at hvalues
  cases hvalues
  rw [Condition.isMissing_of_mem_members hu] at h
  cases h

/-- Without rows that carry identifiers, those handed out are named by the filter. -/
theorem names_of_mem_uidValues {uids : List Value} (huid : q.entity.uid? = some uid)
    (hnone : q.carried uid = []) (huids : q.uidValues = .ok uids) (hu : u ∈ uids) :
    q.Names uid u := by
  rw [uidValues_of_rows huid (List.filterMap_eq_nil_iff.1 hnone)] at huids
  cases hfind : q.filters.find? uid with
  | none =>
    rw [hfind] at huids
    cases huids
    cases hu
  | some c =>
    rw [hfind] at huids
    exact ⟨c, uids, hfind, huids, hu⟩

theorem rowUid_of_present {own : Value} (huid : q.entity.uid? = some uid)
    (h : present? row uid = some own) (uids : List Value) (i : Nat) :
    q.rowUid uids i row = own := by
  obtain ⟨hget, hown⟩ := Option.filter_eq_some_iff.1 h
  unfold rowUid
  rw [huid]
  simp only [hget, Option.getD_some]
  exact if_pos hown

theorem isMissing_of_present?_eq_none (h : present? row uid = none) :
    ((row.get? uid).getD .null).isMissing = true := by
  cases hget : row.get? uid with
  | none => rfl
  | some own => simpa using Option.filter_eq_none_iff.1 h own hget

/-- The only identifier that is handed out is given to every row without one. -/
theorem rowUid_singleton (huid : q.entity.uid? = some uid) (h : present? row uid = none)
    (v : Value) (i : Nat) : q.rowUid [v] i row = v := by
  unfold rowUid
  rw [huid]
  simp only [isMissing_of_present?_eq_none h, Bool.not_true, Bool.false_eq_true, if_false]

/-- A row without an identifier is given the only one that is handed out, or the one at its place
where there are as many as rows, or keeps none. -/
theorem rowUid_of_none (huid : q.entity.uid? = some uid) (h : present? row uid = none)
    (uids : List Value) {i : Nat} (hi : i < q.rows.length) :
    uids = [q.rowUid uids i row] ∨
      uids.length = q.rows.length ∧ q.rowUid uids i row ∈ uids ∨
      uids.length ≠ 1 ∧ uids.length ≠ q.rows.length ∧ (q.rowUid uids i row).isMissing = true := by
  by_cases hone : uids.length = 1
  · obtain ⟨v, rfl⟩ := List.length_eq_one_iff.1 hone
    exact .inl (by rw [rowUid_singleton huid h])
  · have hown := isMissing_of_present?_eq_none h
    have huids : q.rowUid uids i row = if uids.length = q.rows.length
        then uids.getD i ((row.get? uid).getD .null) else (row.get? uid).getD .null := by
      unfold rowUid
      rw [huid]
      simp only [hown, Bool.not_true, Bool.false_eq_true, if_false]
      split
      · exact absurd rfl hone
      · rfl
    rw [huids]
    split_ifs with hall
    · refine .inr (.inl ⟨hall, ?_⟩)
      rw [List.getD_eq_getElem?_getD, List.getElem?_eq_getElem (by omega), Option.getD_some]
      exact List.getElem_mem _
    · exact .inr (.inr ⟨hone, hall, hown⟩)

/-- When all rows of an update are addressed rightly: each row carries an identifier, or the filter
has one for it, or the only identifier that the rows carry is one that the filter names, or the row
is refused. -/
def AddressesRows (q : Query) (d : Dialect) (uid : String) (uids : List Value) : Prop :=
  ∀ i row, q.rows[i]? = some row → present? row uid = none →
    (q.carried uid = [] ∧ (uids.length = 1 ∨ uids.length = q.rows.length)) ∨
      (∃ v, q.carried uid = [v] ∧ q.Names uid v) ∨ q.Refuses d row (q.rowUid uids i row)

/-- Fewer rows carry identifiers than there are when one carries none. -/
theorem length_carried_lt (hrow : row ∈ q.rows) (h : present? row uid = none) :
    (q.carried uid).length < q.rows.length :=
  List.length_filterMap_lt_length_iff_exists.2 ⟨row, hrow, h⟩

/-- The identifiers of rows never serve a row without one, unless there is a single one and the
filter names it too. -/
theorem addressedRightly_iff {uids : List Value} {i : Nat} (huid : q.entity.uid? = some uid)
    (huids : q.uidValues = .ok uids) (hrow : q.rows[i]? = some row)
    (h : present? row uid = none) :
    q.AddressedRightly d uid row (q.rowUid uids i row) ↔
      (q.carried uid = [] ∧ (uids.length = 1 ∨ uids.length = q.rows.length)) ∨
        (∃ v, q.carried uid = [v] ∧ q.Names uid v) ∨ q.Refuses d row (q.rowUid uids i row) := by
  obtain ⟨hi, rfl⟩ := List.getElem?_eq_some_iff.1 hrow
  have hlt := length_carried_lt (List.getElem_mem hi) h
  have huid' := rowUid_of_none huid h uids hi
  rw [AddressedRightly, h]
  simp only
  generalize q.rowUid uids i q.rows[i] = u at huid' ⊢
  by_cases hcarried : q.carried uid = []
  · have hnames : ∀ v ∈ uids, q.Names uid v := fun v =>
      names_of_mem_uidValues huid hcarried huids
    rcases huid' with hone | ⟨hall, hmem⟩ | ⟨hone, hall, hmissing⟩
    · have hu := hnames u (hone ▸ List.mem_singleton_self u)
      exact ⟨fun _ => .inl ⟨hcarried, .inl (by rw [hone]; rfl)⟩, fun _ => .inl hu⟩
    · exact ⟨fun _ => .inl ⟨hcarried, .inr hall⟩, fun _ => .inl (hnames u hmem)⟩
    · have hu : ¬q.Names uid u := not_names_of_isMissing hmissing
      rw [hcarried]
      simp [hu, hone, hall]
  · cases huids.symm.trans (uidValues_of_carried huid hcarried)
    rcases huid' with hone | ⟨hall, -⟩ | ⟨hone, -, hmissing⟩
    · rw [hone]
      simp
    · omega
    · have hu : ¬q.Names uid u := not_names_of_isMissing hmissing
      have hmany : ∀ v, q.carried uid ≠ [v] := fun v hv => hone (by rw [hv]; rfl)
      simp [hu, hcarried, hmany]

theorem isMissing_of_mem_carried (h : u ∈ q.carried uid) : u.isMissing = false := by
  obtain ⟨row, -, hrow⟩ := List.mem_filterMap.1 h
  simpa using (Option.filter_eq_some_iff.1 hrow).2

/-- Without a template only a missing identifier is refused; a faulty one fails in its codec. -/
theorem refuses_iff (ht : nonEmpty? q.entity.options.updateRequestDataAddress = none) :
    q.Refuses d row u ↔ u.isMissing = true := by
  unfold Refuses itemUri
  rw [ht]
  by_cases hu : u.isMissing = true
  · simp only [if_pos hu]
    exact ⟨fun _ => hu, fun _ => ⟨_, rfl⟩⟩
  · simp only [if_neg hu]
    refine ⟨fun ⟨e, he⟩ => ?_, fun h => absurd h hu⟩
    cases hd : d.usesKeyPredicates <;> cases ha : q.entity.uidAttribute? <;>
      simp only [hd, ha] at he
    · cases he
    · cases he
    · cases he
    · rename_i a
      cases hc : d.codec.encode (.value u) a.dataType a.options.odataType <;> rw [hc] at he <;>
        cases he

/-- Where a single row of several carries an identifier, another row carries none. -/
theorem exists_present?_eq_none {v : Value} (hv : q.carried uid = [v])
    (hone : q.rows.length ≠ 1) :
    ∃ (i : Nat) (row : Row), q.rows[i]? = some row ∧ present? row uid = none := by
  have hle : (q.carried uid).length ≤ q.rows.length := List.length_filterMap_le _ _
  have hlt : (q.carried uid).length < q.rows.length := by
    rw [hv, List.length_singleton] at hle ⊢
    omega
  obtain ⟨row, hmem, hnone⟩ := List.length_filterMap_lt_length_iff_exists.1 hlt
  obtain ⟨i, hi, rfl⟩ := List.getElem_of_mem hmem
  exact ⟨i, _, List.getElem?_eq_getElem hi, hnone⟩

/-- Without a template all rows are addressed rightly unless a single row of several carries an
identifier, and the filter does not name it. -/
theorem addressesRows_iff {uids : List Value} (huid : q.entity.uid? = some uid)
    (huids : q.uidValues = .ok uids)
    (ht : nonEmpty? q.entity.options.updateRequestDataAddress = none) :
    q.AddressesRows d uid uids ↔
      ∀ v, q.carried uid = [v] → q.rows.length = 1 ∨ q.Names uid v := by
  constructor
  · intro h v hv
    by_cases hone : q.rows.length = 1
    · exact .inl hone
    · obtain ⟨i, row, hrow, hnone⟩ := exists_present?_eq_none hv hone
      have hcarried : q.carried uid ≠ [] := by rw [hv]; exact List.cons_ne_nil _ _
      cases huids.symm.trans (uidValues_of_carried huid hcarried)
      rcases h i row hrow hnone with ⟨hnil, -⟩ | ⟨w, hw, hnames⟩ | hrefuses
      · exact absurd hnil hcarried
      · cases hv.symm.trans hw
        exact .inr hnames
      · have hmem : v ∈ q.carried uid := by rw [hv]; exact List.mem_singleton_self v
        rw [refuses_iff ht, hv, rowUid_singleton huid hnone, isMissing_of_mem_carried hmem]
          at hrefuses
        cases hrefuses
  · intro h i row hrow hnone
    obtain ⟨hi, rfl⟩ := List.getElem?_eq_some_iff.1 hrow
    have hlt := length_carried_lt (List.getElem_mem hi) hnone
    rw [refuses_iff ht]
    rcases rowUid_of_none huid hnone uids hi with hgiven | ⟨hall, -⟩ | ⟨-, -, hmissing⟩
    · by_cases hcarried : q.carried uid = []
      · exact .inl ⟨hcarried, .inl (by rw [hgiven]; rfl)⟩
      · cases huids.symm.trans (uidValues_of_carried huid hcarried)
        rcases h _ hgiven with hone | hnames
        · rw [hgiven, List.length_singleton] at hlt
          omega
        · exact .inr (.inl ⟨_, hgiven, hnames⟩)
    · by_cases hcarried : q.carried uid = []
      · exact .inl ⟨hcarried, .inr hall⟩
      · cases huids.symm.trans (uidValues_of_carried huid hcarried)
        omega
    · exact .inr (.inr hmissing)

end Query

/-- The requests of an update are one for each row, to the address of the identifier that the row is
given. When that is the right one for all rows is `Query.AddressesRows`; without a template, it is
unless a single row of several carries an identifier and the filter does not name it. -/
theorem update_addressed_iff {q : Query} {d : Dialect} {uid : String}
    (huid : q.entity.uid? = some uid) :
    (∀ requests, q.updateRequests d = .ok requests →
      ∃ uids, q.uidValues = .ok uids ∧ requests.length = q.rows.length ∧
        ∀ i row r, q.rows[i]? = some row → requests[i]? = some r →
          Query.itemUri d q.entity (q.rowUid uids i row) row
            q.entity.options.updateRequestDataAddress = .ok r.uri) ∧
    ∀ uids, q.uidValues = .ok uids →
      ((∀ i row, q.rows[i]? = some row → q.AddressedRightly d uid row (q.rowUid uids i row)) ↔
        q.AddressesRows d uid uids) ∧
      (nonEmpty? q.entity.options.updateRequestDataAddress = none →
        (q.AddressesRows d uid uids ↔
          ∀ v, q.carried uid = [v] → q.rows.length = 1 ∨ q.Names uid v)) := by
  refine ⟨fun requests h => Query.itemUri_of_updateRequests h, fun uids huids => ⟨?_, ?_⟩⟩
  · constructor
    · intro h i row hrow hnone
      exact (Query.addressedRightly_iff huid huids hrow hnone).1 (h i row hrow)
    · intro h i row hrow
      cases hown : Query.present? row uid with
      | some own =>
        rw [Query.AddressedRightly, hown]
        exact Query.rowUid_of_present huid hown uids i
      | none => exact (Query.addressedRightly_iff huid huids hrow hown).2 (h i row hrow hown)
  · exact Query.addressesRows_iff huid huids

def statusRow (id : Option Int) (status : String) : Row :=
  (id.map fun n => ("ID", Value.int n)).toList ++ [("Status", .str status)]

def statusUpdate (first second : Option Int) (filters : Group) : Query where
  entity :=
    { name := "Order", dataAddress := "Orders", uidName := some "ID"
      attributes := [{ name := "ID", dataAddress := "ID", dataType := .integer },
        { name := "Status", dataAddress := "Status" }] }
  rows := [statusRow first "open", statusRow second "closed"]
  filters := filters

/-- No order is named, and the filter names one for each. -/
def filteredUpdate : Query := statusUpdate none none (orderQuery .isIn (.str "4, 5")).filters

/-- One order is named, and the filter names none. -/
def strayUpdate : Query := statusUpdate (some 1) none .empty

theorem update_addressed_isIn :
    filteredUpdate.uidValues = .ok [.str "4", .str "5"] ∧
      ∀ i row, filteredUpdate.rows[i]? = some row →
        filteredUpdate.AddressedRightly .odata2 "ID" row
          (filteredUpdate.rowUid [.str "4", .str "5"] i row) := by
  have huids : filteredUpdate.uidValues = .ok [.str "4", .str "5"] := by decide +kernel
  have huid : filteredUpdate.entity.uid? = some "ID" := rfl
  obtain ⟨-, h⟩ := update_addressed_iff (d := .odata2) huid
  obtain ⟨hrightly, hplain⟩ := h _ huids
  refine ⟨huids, hrightly.2 ((hplain rfl).2 ?_)⟩
  intro v hv
  cases hv

/-- The status of an order that is not named is written to the order before it. -/
theorem update_addressed_other : ∃ r s,
    strayUpdate.updateRequests .odata2 = .ok [r, s] ∧ strayUpdate.uidValues = .ok [.int 1] ∧
      strayUpdate.rowUid [.int 1] 1 (statusRow none "closed") = .int 1 ∧ s.uri = "Orders(1)" ∧
      ¬strayUpdate.AddressedRightly .odata2 "ID" (statusRow none "closed") (.int 1) := by
  refine ⟨jsonRequest "MERGE" "Orders(1)" (.map [("Status", .str "open")]),
    jsonRequest "MERGE" "Orders(1)" (.map [("Status", .str "closed")]),
    by decide +kernel, by decide +kernel, by decide +kernel, rfl, ?_⟩
  have hnone : Query.present? (statusRow none "closed") "ID" = none := by decide +kernel
  rw [Query.AddressedRightly, hnone]
  rintro (⟨c, -, hfind, -⟩ | ⟨e, he⟩)
  · cases hfind
  · have huri : Query.itemUri .odata2 strayUpdate.entity (.int 1) (statusRow none "closed")
        strayUpdate.entity.options.updateRequestDataAddress = .ok "Orders(1)" := by decide +kernel
    rw [huri] at he
    cases he

end EntityQuery
