import EntityQuery.Proofs.ReadAddress
import EntityQuery.Proofs.TableQuery

/-!
# The order that is asked for

Sorters are left for later as soon as one of them is not sent or is to be applied again
(`SortStyle.locally_split_iff`); otherwise they are left to the request, which carries them as a
parameter (`Plan.carriesOrder_of_sorters`). A query document has no place for them: it is the same
whatever they are (`Plan.readRequest?_withSorters`). So the order is lost exactly if it is left to a
query document (`order_kept_iff`).
-/

namespace EntityQuery

open Text Url

/-- A request carries sorters in their order. -/
def Request.CarriesOrder (r : Request) (style : SortStyle) (sorters : List Sorter) : Prop :=
  (style.parameter, some (join "," (sorters.map style.item))) ∈ r.params

/-- Whether a sorter asks to be applied after reading: it is not sent, or it is to be applied again
even so. -/
def SortStyle.LeavesForLater (style : SortStyle) (s : Sorter) : Prop :=
  style.isRemote s = false ∨ s.target.options.sortLocally = some true

/-- Sorters are left for later exactly if one of them asks for it. -/
theorem SortStyle.locally_split_iff {style : SortStyle} {sorters : List Sorter}
    (hne : sorters ≠ []) : (style.split sorters).locally = sorters.map Sorter.markLocal ↔
      ∃ s ∈ sorters, style.LeavesForLater s := by
  rw [SortStyle.split]
  split_ifs with hall hany
  · refine iff_of_true rfl ?_
    obtain ⟨s, hs, hagain⟩ := List.any_eq_true.1 hany
    refine ⟨s, hs, .inr ?_⟩
    cases hopt : s.target.options.sortLocally <;> rw [hopt] at hagain <;> cases hagain
    rfl
  · refine iff_of_false (fun h => hne (List.map_eq_nil_iff.1 h.symm)) ?_
    rintro ⟨s, hs, hstays | hagain⟩
    · cases hstays.symm.trans (List.all_eq_true.1 hall s hs)
    · exact hany (List.any_eq_true.2 ⟨s, hs, by rw [hagain]; rfl⟩)
  · refine iff_of_true rfl ?_
    rw [List.all_eq_true] at hall
    obtain ⟨s, hs, hstays⟩ := not_forall₂.1 hall
    exact ⟨s, hs, .inl (Bool.eq_false_iff.2 hstays)⟩

namespace Plan

variable {d : Dialect} {q : Query} {p : Plan} {r : Request}

/-- The plan with other sorters to be sent. -/
def withSorters (p : Plan) (sorters : List Sorter) : Plan := { p with sorters := sorters }

theorem readRequest?_withSorters (p : Plan) (sorters : List Sorter) :
    (p.withSorters sorters).readRequest? .graphql = p.readRequest? .graphql := rfl

/-- Sorters that are sent are carried by every request but a document. -/
theorem carriesOrder_of_sorters (hd : d ≠ .graphql) (hr : p.readRequest? d = .ok (some r))
    (hne : p.sorters ≠ []) : r.CarriesOrder d.sortStyle p.sorters := by
  obtain ⟨-, address, filters, remotely, projection, -, -, -, -, -, hparams⟩ :=
    exists_params_of_readRequest? hd hr
  have hsorters : d.sortStyle.parameters p.sorters =
      [(d.sortStyle.parameter, some (join "," (p.sorters.map d.sortStyle.item)))] :=
    if_neg (by simpa using hne)
  rw [Request.CarriesOrder, hparams, hsorters]
  simp

/-- A document has no parameters. -/
theorem params_of_document (hr : p.readRequest? .graphql = .ok (some r)) : r.params = [] := by
  obtain ⟨-, hnone⟩ | ⟨fields, arguments, -, hdocument⟩ := readRequest?_document_cases hr
  · cases hnone
  cases hdocument
  have hquery : parseQuery (queryOf "") = [] := by decide +kernel
  rw [Graphql.request]
  split <;> exact hquery

end Plan

/-- The sorters of a query are all applied after reading, or the request carries them all, exactly
if the request is no document or one of them asks to be applied after reading. What a document says
does not depend on the sorters that are left to it. -/
theorem order_kept_iff {d : Dialect} {q : Query} {p : Plan} {r : Request}
    (hp : Plan.of d q = .ok p) (hr : p.readRequest? d = .ok (some r)) (hne : q.sorters ≠ []) :
    (p.localSorters = q.sorters.map Sorter.markLocal ∨
        p.sorters = q.sorters ∧ r.CarriesOrder d.sortStyle q.sorters ↔
      d ≠ .graphql ∨ ∃ s ∈ q.sorters, d.sortStyle.LeavesForLater s) ∧
      (d = .graphql → ∀ sorters, (p.withSorters sorters).readRequest? d = .ok (some r)) := by
  by_cases hd : d = .graphql
  · subst hd
    refine ⟨?_, fun _ sorters => (p.readRequest?_withSorters sorters).trans hr⟩
    obtain ⟨-, -, -, -, -, hlater, -⟩ := Plan.of_eq_ok hp
    have hnone : ¬r.CarriesOrder (Dialect.sortStyle .graphql) q.sorters := by
      rw [Request.CarriesOrder, Plan.params_of_document hr]
      exact List.not_mem_nil
    rw [hlater, SortStyle.locally_split_iff hne]
    simp only [hnone, and_false, or_false, ne_eq, not_true_eq_false, false_or]
  · refine ⟨iff_of_true ?_ (.inl hd), fun h => absurd h hd⟩
    rcases Plan.sorters_cases hp with ⟨hsent, -⟩ | ⟨-, hlater⟩ | ⟨-, hlater⟩
    · exact .inr ⟨hsent, hsent ▸ Plan.carriesOrder_of_sorters hd hr (hsent ▸ hne)⟩
    · exact .inl hlater
    · exact .inl hlater

/-- Issues whose titles the service can sort. -/
def titledIssues (direction : SortDirection) : Query :=
  let title : Attribute :=
    { name := "title", dataAddress := "title", options := { sortRemote := some true } }
  { entity :=
      { name := "issues", dataAddress := "issues"
        attributes := [{ name := "id", dataAddress := "id" }, title] }
    sorters := [{ target := .attribute title, direction := direction }] }

def titledPlan (direction : SortDirection) : Plan where
  query := titledIssues direction
  sorters := (titledIssues direction).sorters

theorem order_kept_titledPlan :
    let p := titledPlan .desc
    Plan.of .odata4 p.query = .ok p ∧ ∃ r, p.readRequest? .odata4 = .ok (some r) ∧
      r.CarriesOrder .directions p.query.sorters := by
  intro p
  have hp : Plan.of .odata4 p.query = .ok p := rfl
  have hr : p.readRequest? .odata4 = .ok (some (.withParams "GET" "issues"
      [("$orderby", some "title desc"), ("$count", some "true")]
      (Dialect.readHeaders .odata4))) := by decide +kernel
  obtain ⟨hkept, -⟩ := order_kept_iff hp hr (List.cons_ne_nil _ _)
  rcases hkept.2 (.inl nofun) with hlater | ⟨-, hcarries⟩
  · cases hlater
  · exact ⟨hp, _, hr, hcarries⟩

/-- A document for issues by title, last first, is the one for issues in any order. -/
theorem order_lost :
    let p := titledPlan .desc
    Plan.of .graphql p.query = .ok p ∧ p.query.sorters ≠ [] ∧ p.sorters = p.query.sorters ∧
      p.localSorters = [] ∧ p.readRequest? .graphql = .ok (some (Graphql.request {}
        (Graphql.queryDocument "issues" ["id", "title"] []))) := by
  refine ⟨rfl, List.cons_ne_nil _ _, rfl, rfl, ?_⟩
  decide +kernel

end EntityQuery
