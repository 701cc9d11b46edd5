import EntityQuery.Proofs.ItemAddress
import EntityQuery.Proofs.PageCount
import EntityQuery.Proofs.QueryRoundTrip

/-!
# Items of a table

A service of single items hands over the rows of a table that have a given identifier. A query for
the items of a list reads them one by one, in the order of the list and as often as the list names
them, and sorts and cuts them after reading (`read_of_itemTable`). The total is that of the query on
the table exactly where the list names no row twice. There the rows are those of the query, apart
from the order of rows that no sorter tells apart.
-/

namespace EntityQuery

open Text

/-- Whether a row is the item with an identifier. -/
def Row.isItem (uid : String) (v : Value) (row : Row) : Bool :=
  ((row.get? uid).getD .null).equals v

/-- The rows of a table that are items of a list, in the order of the list. -/
def itemsOf (uid : String) (table : List Row) (values : List Value) : List Row :=
  values.flatMap fun v => table.filter (Row.isItem uid v)

/-- No row of a table is the item of two entries of a list. -/
def NamedOnce (uid : String) (table : List Row) (values : List Value) : Prop :=
  values.Pairwise fun v w =>
    ∀ row ∈ table, Row.isItem uid v row = true → Row.isItem uid w row = false

instance (uid : String) (table : List Row) (values : List Value) :
    Decidable (NamedOnce uid table values) :=
  inferInstanceAs (Decidable (values.Pairwise _))

/-- A query for the items of a list. A service of single items answers the request for each of them
with the rows of a table that are the item. The address of an item is filled with its identifier
alone, and no value of the list is a hollow one. Items that are named twice can be sorted by the
sorters that are left for later. -/
structure ItemTable {σ : Type} (d : Dialect) (q : Query) (p : Plan) (t : Transport σ)
    (table : List Row) (uid : String) (filter : Condition) (values : List Value)
    (expected : ReadResult) : Prop where
  divided : Plan.of d q = .ok p
  identified : q.entity.uid? = some uid
  itemAddress : ∃ address, nonEmpty? q.entity.options.uidRequestDataAddress = some address ∧
    placeholders address ≠ [] ∧ ∀ name ∈ placeholders address, StandsForItem uid name
  filtered : q.filters.flatten = .mk .and [.condition filter] []
  name_eq : filter.name = uid
  comparator_eq : filter.comparator = .isIn
  named : filter.values = .ok values
  nonempty : values ≠ []
  held : ∀ v ∈ values, ¬v.Hollow
  sortable : NamedOnce uid table values ∨
    ∃ sorted, sortRows p.localSorters (itemsOf uid table values) = .ok sorted
  noOwnAddress : nonEmpty? filter.options.filterRemoteUrl = none ∨
    d.filterStyle.isRemote filter = false
  compiled : ∀ plans, p.fanOut = .ok plans → ∀ p' ∈ plans, ∃ r, p'.readRequest? d = .ok r
  served : ∀ plans, p.fanOut = .ok plans → ∀ v p', (v, p') ∈ values.zip plans → ∀ request,
    p'.readRequest? d = .ok (some request) → p.ReadsItem d uid v request →
      t.Answers d p.query true request (table.filter (Row.isItem uid v))
  evaluated : q.evaluate table = .ok expected

namespace ItemTable

variable {σ : Type} {d : Dialect} {q : Query} {p : Plan} {t : Transport σ} {table : List Row}
  {uid : String} {filter : Condition} {values : List Value} {expected : ReadResult}

/-- The condition heads those at the top of the plan, and all of them are about its target. -/
theorem exists_topLevel (h : ItemTable d q p t table uid filter values expected) :
    ∃ place c rest, p.topLevel = (place, c) :: rest ∧ p.number place = 0 ∧
      (c = filter ∨ c = filter.markLocal) ∧
      ∀ l ∈ p.topLevel, l.2.target = filter.target := by
  obtain ⟨split, hsplit, hremote, hlocal, -⟩ := Plan.of_eq_ok h.divided
  unfold Plan.topLevel
  rw [hremote, hlocal]
  rcases Group.split_single h.filtered hsplit with rfl | rfl | rfl
  · exact ⟨.remote 0, filter, [], rfl, rfl, .inl rfl, by
      simp [Group.topLevel_mk, Group.empty, Group.numberedFrom]⟩
  · exact ⟨.remote 0, filter, _, rfl, rfl, .inl rfl, by
      simp [Group.topLevel_mk, Group.numberedFrom, Condition.markLocal]⟩
  · exact ⟨.locally 0, filter.markLocal, [], rfl, by rw [Plan.number, hremote]; rfl, .inr rfl, by
      simp [Group.topLevel_mk, Group.empty, Group.numberedFrom, Condition.markLocal]⟩

/-- The condition is the one that names the items, it is the first over its name, and the address of
an item is used as it is. -/
theorem exists_itemRead (h : ItemTable d q p t table uid filter values expected) :
    ∃ place c, ItemRead d q p uid place c values ∧ p.earlier? uid place = none ∧
      p.AddressesItems d uid := by
  obtain ⟨place, c, rest, htop, hnumber, hc, htargets⟩ := h.exists_topLevel
  obtain ⟨address, haddress, hidentified, hplaceholders⟩ := h.itemAddress
  have hsame : c.target = filter.target ∧ c.comparator = filter.comparator ∧
      c.values = filter.values := by
    rcases hc with rfl | rfl <;> exact ⟨rfl, rfl, rfl⟩
  have hnames : Plan.namesItems uid c = .ok true := by
    refine Plan.namesItems_iff.2 ⟨?_, .inr ?_, values, ?_, h.nonempty⟩
    · rw [Condition.name, hsame.1]
      exact h.name_eq
    · rw [hsame.2.1, h.comparator_eq]
    · rw [hsame.2.2, h.named]
  rw [← Plan.options_eq h.divided] at haddress
  have hitem : ItemRead d q p uid place c values := by
    refine ⟨h.divided, h.identified, ?_, ?_, .inl ?_, h.held, h.compiled⟩
    · refine Plan.itemCondition?_eq_some_iff.2 ⟨address, uid, haddress, ?_, ?_⟩
      · rw [Plan.entity_eq h.divided, h.identified]
      · rw [htop, Plan.firstNaming_cons]
        exact .inl ⟨hnames, rfl⟩
    · rw [hsame.2.2, h.named]
    · rw [hsame.2.1, h.comparator_eq]
  have hfirst : p.earlier? uid place = none := by
    rw [Plan.earlier?, hnumber]
    rfl
  refine ⟨place, c, hitem, hfirst, ?_, ?_, ?_⟩
  · intro l hl
    rw [Condition.options, htargets l hl, d.filterStyle.isRemote_congr (htargets l hl)]
    exact h.noOwnAddress
  · rw [nonEmpty?_eq_some haddress]
    obtain ⟨name, hname⟩ := List.exists_mem_of_ne_nil _ hidentified
    exact ⟨name, hname, hplaceholders name hname⟩
  · rw [nonEmpty?_eq_some haddress]
    exact fun name hname => hitem.exists_placeholderValue? hfirst (hplaceholders name hname)

/-- What is fetched are the items of the list, in its order. -/
theorem exists_fetched (h : ItemTable d q p t table uid filter values expected) (s : σ) :
    ∃ plans fetched s', p.fanOut = .ok plans ∧
      Plan.fetchAll d t true plans s = (.ok fetched, s') ∧ fetched ≠ [] ∧
      fetched.flatMap (·.rows) = itemsOf uid table values := by
  obtain ⟨place, c, hitem, hfirst, haddresses⟩ := h.exists_itemRead
  obtain ⟨plans, hplans, hall⟩ := hitem.exists_requests fun _ => haddresses
  have hanswers : List.Forall₂ (fun p' rows => p'.AnsweredWith d t true rows) plans
      (values.map fun v => table.filter (Row.isItem uid v)) := by
    obtain ⟨hlength, hrequests⟩ := List.forall₂_iff_zip.1 hall
    rw [List.forall₂_map_right_iff]
    refine (List.forall₂_iff_zip.2 ⟨hlength, fun {v p'} hmem => ?_⟩).flip
    obtain ⟨hquery, request, hr, hreads⟩ := hrequests hmem
    rw [ItemRead.askedAddress?_of_first hfirst] at hreads
    have hserved := h.served plans hplans v p' hmem request hr hreads
    rw [← hquery] at hserved
    exact ⟨request, hr, hserved⟩
  obtain ⟨fetched, s', hfetch, hrows⟩ := Plan.fetchAll_of_answers hanswers s
  refine ⟨plans, fetched, s', hplans, hfetch, ?_, ?_⟩
  · rintro rfl
    exact h.nonempty (List.map_eq_nil_iff.1 hrows.symm)
  · rw [List.flatMap_def, hrows, itemsOf, List.flatMap_def]

/-- The query keeps the rows that are an item of the list. -/
theorem holds_eq (h : ItemTable d q p t table uid filter values expected) (row : Row) :
    q.filters.holds row = values.any fun v => Row.isItem uid v row := by
  have hall : (Group.mk .and [.condition filter] []).holds row = filter.holds row := by
    simp [Group.holds, filterResults, groupResults, Filter.holds, LogicalOperator.combine]
  rw [← Group.holds_flatten, h.filtered, hall, Condition.holds, h.comparator_eq, h.name_eq,
    Condition.members_eq_of_values h.named]
  rfl

end ItemTable

/-- The items of a list, in an order and up to a limit. -/
def listedQuery (options : EntityOptions) (ids : List Int) (sorters : List Sorter) (limit : Int) :
    Query :=
  { itemQuery options [listed ids] with sorters := sorters, limit := limit }

/-- The items of a shelf of five, which a service has one by one. -/
def itemPages : List (String × Value) :=
  [("items/1", pageOf [1]), ("items/2", pageOf [2]), ("items/3", pageOf [3]),
    ("items/4", pageOf [4]), ("items/5", pageOf [5])]

end EntityQuery
