import EntityQuery.Proofs.Selection
import EntityQuery.Proofs.UpdateAddress
import Mathlib.Data.List.Nodup

/-!
# Which item a mutation is about

A mutation that updates an item tells which one by an argument, that of the field that identifies
items. Its arguments are those of the row (`Query.updateMutations_eq_ok`), so they hold an
identifier only if the row does: the one that the filter names is not asked for, and no update is
refused for the want of one (`update_names_item_iff`), unlike an update by address.
-/

namespace EntityQuery

open Graphql

namespace Entity

variable {e : Entity} {a : Attribute} {row : Row} {u : Value}

/-- What an entry of a row becomes as an argument. -/
def argumentOf? (e : Entity) (entry : String × Value) : Option (String × Value) :=
  (e.getAttribute? entry.1).bind fun a =>
    if entry.2.isMissing || !a.hasRemoteAddress then none
    else some (a.writeAddress .update, entry.2)

theorem argumentOf?_eq_some {entry : String × Value} {field : String}
    (h : e.argumentOf? entry = some (field, u)) :
    ∃ a, e.getAttribute? entry.1 = some a ∧ a.hasRemoteAddress = true ∧
      a.writeAddress .update = field ∧ entry.2 = u ∧ u.isMissing = false := by
  obtain ⟨a, ha, h⟩ := Option.bind_eq_some_iff.1 h
  split_ifs at h with hskip
  rw [Bool.or_eq_true, not_or, Bool.not_eq_true, Bool.not_eq_true, Bool.not_eq_false'] at hskip
  cases h
  exact ⟨a, ha, hskip.2, rfl, rfl, hskip.1⟩

/-- The arguments of the mutation for a row. -/
def updateArguments (e : Entity) (row : Row) : Row := .ofEntries (row.filterMap e.argumentOf?)

end Entity

namespace Query

variable {q : Query} {e : Entity} {a : Attribute} {row arguments : Row}
  {values : List (Attribute × Value)}

/-- What a value becomes as an argument, unless it cannot be one. -/
def putArgument? (value : Attribute × Value) : Except Error (Option (String × Value)) :=
  if value.2.isMissing || !value.1.hasRemoteAddress then .ok none
  else do pure (some (← field (·.updateDataAddress) value.1, value.2))

theorem argumentOf?_of_putArgument? {entry : String × Value} {value : Attribute × Value}
    {put : Option (String × Value)}
    (hvalue : (do pure (← e.getAttribute entry.1, entry.2)) = Except.ok (ε := EntityFault) value)
    (hput : putArgument? value = .ok put) : e.argumentOf? entry = put := by
  obtain ⟨a, ha, hvalue⟩ := Except.bind_eq_ok_iff.1 hvalue
  cases hvalue
  unfold Entity.argumentOf?
  rw [Entity.getAttribute?_of_getAttribute ha, Option.bind_some]
  unfold putArgument? at hput
  split_ifs at hput ⊢
  · exact Except.ok.inj hput
  · obtain ⟨name, hname, hput⟩ := Except.bind_eq_ok_iff.1 hput
    cases hput
    have hname := Except.mapError_eq_ok_iff.1 hname
    unfold field at hname
    split_ifs at hname
    cases hname
    rfl

theorem exists_puts_of_rowArguments
    (h : rowArguments (·.updateDataAddress) values = .ok arguments) :
    ∃ puts, List.Forall₂ (fun value put => putArgument? value = .ok put) values puts ∧
      arguments = .ofEntries puts.reduceOption :=
  Row.exists_entries_of_foldlM (fun row (a, v) => by
    dsimp only [putArgument?]
    cases v.isMissing <;> cases a.hasRemoteAddress <;> simp <;> rfl) h

theorem rowArguments_eq (hvalues : writtenRow e row = .ok values)
    (h : rowArguments (·.updateDataAddress) values = .ok arguments) :
    arguments = e.updateArguments row := by
  obtain ⟨puts, hputs, rfl⟩ := exists_puts_of_rowArguments h
  have hall := List.forall₂_exists_iff.2 ⟨values, List.mapM_eq_ok_iff.1 hvalues, hputs⟩
  have hputs : row.map e.argumentOf? = puts := by
    rw [← List.forall₂_eq_eq_eq, List.forall₂_map_left_iff]
    exact hall.imp fun _ _ ⟨value, hvalue, hput⟩ => argumentOf?_of_putArgument? hvalue hput
  rw [← hputs, Entity.updateArguments, List.reduceOption, List.filterMap_map]
  rfl

theorem rowArguments_eq_error {fault : Error}
    (h : rowArguments (·.updateDataAddress) values = .error fault) :
    ∃ name, fault = .query (.relatedAttribute name) := by
  obtain ⟨row, ⟨a, v⟩, -, h⟩ := List.exists_of_foldlM_eq_error h
  dsimp only at h
  split_ifs at h
  · cases h
  · rcases Except.bind_eq_error_iff.1 h with h | ⟨name, -, h⟩
    · dsimp only [field] at h
      split_ifs at h <;> cases h
      exact ⟨a.name, rfl⟩
    · cases h

variable {mutation : String}

/-- Without a look at the filters, each row becomes a mutation. -/
theorem updateMutations_eq (huid : q.entity.uidAttribute? = some a)
    (hmutation : nonEmpty? q.entity.options.graphqlUpdateMutation = some mutation) :
    q.writeRequests .graphql .update = (do
      (← q.writtenRows.mapError Error.entity).mapM fun values => do
        let arguments ← rowArguments (·.updateDataAddress) values
        pure (request q.entity.options (mutationDocument mutation arguments [a.dataAddress]))) := by
  have hname : mutationName q.entity "graphql_update_mutation" (·.graphqlUpdateMutation) =
      .ok mutation := by
    unfold mutationName
    rw [hmutation]
  have hfield : uidField q.entity = .ok a.dataAddress := by
    unfold uidField
    rw [huid]
  unfold writeRequests rowMutations
  rw [hname, hfield]
  rfl

/-- An update fails only over an attribute that is unknown or stands for another entity. -/
theorem updateMutations_eq_error {e : Error} (huid : q.entity.uidAttribute? = some a)
    (hmutation : nonEmpty? q.entity.options.graphqlUpdateMutation = some mutation)
    (h : q.writeRequests .graphql .update = .error e) :
    (∃ fault, e = .entity fault) ∨ ∃ name, e = .query (.relatedAttribute name) := by
  rw [updateMutations_eq huid hmutation] at h
  rcases Except.bind_eq_error_iff.1 h with h | ⟨rows, -, h⟩
  · cases hrows : q.writtenRows <;> rw [hrows] at h <;> cases h
    exact .inl ⟨_, rfl⟩
  · obtain ⟨values, -, h⟩ := List.exists_of_mapM_eq_error h
    rcases Except.bind_eq_error_iff.1 h with h | ⟨arguments, -, h⟩
    · exact .inr (rowArguments_eq_error h)
    · cases h

/-- Each row becomes a mutation with the arguments of the row. -/
theorem updateMutations_eq_ok {requests : List Request} (huid : q.entity.uidAttribute? = some a)
    (hmutation : nonEmpty? q.entity.options.graphqlUpdateMutation = some mutation)
    (h : q.writeRequests .graphql .update = .ok requests) :
    requests = q.rows.map fun row => request q.entity.options
      (mutationDocument mutation (q.entity.updateArguments row) [a.dataAddress]) := by
  rw [updateMutations_eq huid hmutation] at h
  obtain ⟨rows, hrows, h⟩ := Except.bind_eq_ok_iff.1 h
  have hrows := List.mapM_eq_ok_iff.1 (Except.mapError_eq_ok_iff.1 hrows)
  have hall := List.forall₂_exists_iff.2 ⟨rows, hrows, List.mapM_eq_ok_iff.1 h⟩
  rw [eq_comm, ← List.forall₂_eq_eq_eq, List.forall₂_map_left_iff]
  refine hall.imp ?_
  rintro row r ⟨values, hvalues, h⟩
  obtain ⟨arguments, harguments, h⟩ := Except.bind_eq_ok_iff.1 h
  cases h
  rw [rowArguments_eq hvalues harguments]

/-- The identifier that a row is to be written under: its own, or else one that the filter names. -/
def IsUid (q : Query) (a : Attribute) (row : Row) (u : Value) : Prop :=
  match present? row a.name with
  | some own => u = own
  | none => q.Names a.name u

/-- The mutation for a row tells the item that the row is to be written to. -/
def NamesItem (q : Query) (a : Attribute) (row : Row) : Prop :=
  ∃ u, (q.entity.updateArguments row).get? a.dataAddress = some u ∧ q.IsUid a row u

end Query

namespace Entity

variable {e : Entity} {a : Attribute} {row : Row} {u : Value}

/-- The last entry of a row that is an argument of some name has a value. -/
def PutsLast (e : Entity) (row : Row) (field : String) (u : Value) : Prop :=
  ∃ before entry after, row = before ++ entry :: after ∧ e.argumentOf? entry = some (field, u) ∧
    ∀ later ∈ after, ∀ v, e.argumentOf? later ≠ some (field, v)

/-- An attribute is written in updates under its own address, and no other attribute is. -/
structure WritesAlone (e : Entity) (a : Attribute) : Prop where
  remote : a.hasRemoteAddress = true
  own : a.writeAddress .update = a.dataAddress
  alone : ∀ b ∈ e.attributes, b.hasRemoteAddress = true →
    b.writeAddress .update = a.dataAddress → b.name = a.name

theorem getAttribute?_of_uidAttribute? (h : e.uidAttribute? = some a) :
    e.getAttribute? a.name = some a := by
  obtain ⟨uid, -, h⟩ := Option.bind_eq_some_iff.1 h
  have hname : a.name = uid := by simpa using List.find?_some h
  rwa [hname]

/-- Then a row puts a value under its address exactly if it has one for the attribute. -/
theorem WritesAlone.putsLast_iff (h : e.WritesAlone a) (ha : e.getAttribute? a.name = some a)
    (hrow : row.names.Nodup) :
    e.PutsLast row a.dataAddress u ↔ Query.present? row a.name = some u := by
  have hput {entry : String × Value} {v : Value}
      (hentry : e.argumentOf? entry = some (a.dataAddress, v)) : entry.1 = a.name := by
    obtain ⟨b, hb, hremote, haddress, -, -⟩ := argumentOf?_eq_some hentry
    have hname : b.name = entry.1 := by simpa using List.find?_some hb
    rw [← hname, h.alone b (List.mem_of_find?_eq_some hb) hremote haddress]
  have hdistinct {before after : Row} {entry : String × Value}
      (h : row = before ++ entry :: after) : ∀ other ∈ before ++ after, other.1 ≠ entry.1 := by
    subst h
    rw [Row.names, List.map_append, List.map_cons, List.nodup_middle, List.nodup_cons,
      ← List.map_append] at hrow
    exact fun other hother hsame => hrow.1 (hsame ▸ List.mem_map_of_mem hother)
  unfold Query.present?
  rw [Option.filter_eq_some_iff]
  constructor
  · rintro ⟨before, ⟨name, v⟩, after, hsplit, hentry, -⟩
    obtain ⟨-, -, -, -, rfl, hpresent⟩ := argumentOf?_eq_some hentry
    obtain rfl : name = a.name := hput hentry
    refine ⟨List.lookup_eq_some_iff.2 ⟨before, after, hsplit, fun other hother => ?_⟩, by simpa⟩
    simpa using (hdistinct hsplit other (List.mem_append_left _ hother)).symm
  · rintro ⟨hget, hpresent⟩
    obtain ⟨before, after, hsplit, -⟩ := List.lookup_eq_some_iff.1 hget
    refine ⟨before, (a.name, u), after, hsplit, ?_, fun later hlater v hv => ?_⟩
    · simp [argumentOf?, ha, h.remote, h.own, by simpa using hpresent]
    · exact hdistinct hsplit later (List.mem_append_right _ hlater) (hput hv)

end Entity

/-- An update becomes one mutation for each row, whatever the filters, unless an attribute of a row
is unknown or stands for another entity; no row is refused for want of an identifier. A mutation
tells its item exactly if the last value that the row puts under the field of the identifier is the
right one. Where only the identifier is written there, that is where the row has one. -/
theorem update_names_item_iff {q : Query} {a : Attribute} {mutation : String}
    (huid : q.entity.uidAttribute? = some a)
    (hmutation : nonEmpty? q.entity.options.graphqlUpdateMutation = some mutation) :
    (∀ e, q.writeRequests .graphql .update = .error e →
      (∃ fault, e = .entity fault) ∨ ∃ name, e = .query (.relatedAttribute name)) ∧
    (∀ requests, q.writeRequests .graphql .update = .ok requests →
      requests = q.rows.map fun row => request q.entity.options
        (mutationDocument mutation (q.entity.updateArguments row) [a.dataAddress])) ∧
    ∀ row, (q.NamesItem a row ↔ ∃ u, q.entity.PutsLast row a.dataAddress u ∧ q.IsUid a row u) ∧
      (q.entity.WritesAlone a → row.names.Nodup →
        (q.NamesItem a row ↔ (Query.present? row a.name).isSome)) := by
  refine ⟨fun e => Query.updateMutations_eq_error huid hmutation,
    fun requests => Query.updateMutations_eq_ok huid hmutation, fun row => ?_⟩
  have hnames : q.NamesItem a row ↔
      ∃ u, q.entity.PutsLast row a.dataAddress u ∧ q.IsUid a row u :=
    exists_congr fun u => and_congr_left fun _ => Row.get?_ofEntries_filterMap_iff
  refine ⟨hnames, fun halone hrow => ?_⟩
  have hput (u : Value) :=
    halone.putsLast_iff (u := u) (Entity.getAttribute?_of_uidAttribute? huid) hrow
  simp only [hnames, hput]
  unfold Query.IsUid
  cases Query.present? row a.name <;> simp

def updatedId : Attribute := { name := "id", dataAddress := "id" }

/-- The status of an item is written. -/
def itemUpdate (row : Row) (filters : Group) : Query where
  entity :=
    { name := "items", dataAddress := "items", uidName := some "id"
      attributes := [updatedId, { name := "status", dataAddress := "status" }]
      options := { graphqlUpdateMutation := some "updateItem" } }
  rows := [row]
  filters := filters

/-- The mutation of such an update. -/
def statusMutation (arguments : Row) : Request :=
  request {} (mutationDocument "updateItem" arguments ["id"])

theorem update_names_item_own :
    let row : Row := [("id", .str "5"), ("status", .str "open")]
    let q := itemUpdate row .empty
    q.writeRequests .graphql .update = .ok [statusMutation row] ∧ q.NamesItem updatedId row := by
  intro row q
  have halone : q.entity.WritesAlone updatedId := by
    refine ⟨by decide +kernel, by decide +kernel, fun b hb _ haddress => ?_⟩
    rcases List.mem_pair.1 hb with rfl | rfl
    · rfl
    · exact absurd haddress (by decide +kernel)
  obtain ⟨-, -, hnames⟩ := update_names_item_iff (q := q) (a := updatedId)
    (by decide +kernel) rfl
  exact ⟨by decide +kernel, ((hnames row).2 halone (by decide +kernel)).2 (by decide +kernel)⟩

/-- Without an identifier in the row, the one in the filter is not written, and none is missed. -/
theorem update_names_none :
    let row : Row := [("status", .str "open")]
    let filtered := itemUpdate row
      (.mk .and [.condition { target := .attribute updatedId, value := .str "5" }] [])
    let unfiltered := itemUpdate row .empty
    (filtered.writeRequests .graphql .update = .ok [statusMutation row] ∧
      filtered.uidValues = .ok [.str "5"] ∧ ¬filtered.NamesItem updatedId row) ∧
    unfiltered.writeRequests .graphql .update = .ok [statusMutation row] ∧
      unfiltered.uidValues = .ok [] ∧ ¬unfiltered.NamesItem updatedId row := by
  have hnone (filters : Group) :
      ¬(itemUpdate [("status", .str "open")] filters).NamesItem updatedId
        [("status", .str "open")] := by
    rintro ⟨u, hget, -⟩
    cases hget
  intro row filtered unfiltered
  exact ⟨⟨by decide +kernel, by decide +kernel, hnone _⟩, by decide +kernel, by decide +kernel,
    hnone _⟩

end EntityQuery
