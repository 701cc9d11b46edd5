import EntityQuery.Html.Table
import EntityQuery.Proofs.RowEntries

/-!
# Columns of a page

Each attribute with a selector gives a column, a value for each element that it means, and the
columns are put into the rows one after the other. As no two attributes have one name, what stands
in a row under a name is what its own column has there (`Table.foldl_extend_of_mem`). So there are
as many rows as the longest column is long, each with the cells of the columns that reach it and
with what concerns the page as a whole (`container_linesUp`).
-/

namespace List

theorem foldl_max_eq_zero_iff {ns : List ℕ} {n : ℕ} :
    ns.foldl max n = 0 ↔ n = 0 ∧ ∀ k ∈ ns, k = 0 := by
  induction ns generalizing n with
  | nil => simp
  | cons k ns ih => rw [foldl_cons, ih, Nat.max_eq_zero_iff, forall_mem_cons, and_assoc]

theorem foldr_eq_self {α : Type} {r : α → α → Prop} {f : α → List α → List α} {xs : List α}
    (h : xs.Pairwise r) (hlast : ∀ x, f x [] = [x])
    (hcons : ∀ x y ys, r x y → f x (y :: ys) = x :: y :: ys) : xs.foldr f [] = xs := by
  induction h with
  | nil => rfl
  | @cons x xs hx _ ih =>
    rw [foldr_cons, ih]
    cases xs with
    | nil => exact hlast x
    | cons y ys => exact hcons x y ys (hx y mem_cons_self)

end List

namespace EntityQuery.Html

open Text

/-- A text that selects elements. -/
def IsSelector (text : String) : Prop :=
  ∃ selectors, Selector.read? text = some selectors ∧ selectors.all (·.isKnown) = true

/-- An extension that names an attribute or calls what there is. -/
def IsExtension (extension : String) : Prop :=
  ∀ name argument, call? extension = some (name, argument) →
    name = "srcset" ∨ name ∈ ["is", "not", "find"] ∧ IsSelector argument

/-- An address with a valid selector, if it has one, and a known extension. -/
structure Address.IsValid (a : Address) : Prop where
  selector : a.selector ≠ "" → IsSelector a.selector
  extension : IsExtension a.extension

instance : DecidablePred IsSelector := fun text =>
  decidable_of_iff ((Selector.read? text).any (·.all (·.isKnown)) = true) (Option.any_eq_true _ _)

instance : DecidablePred IsExtension := fun extension =>
  decidable_of_iff
    (∀ c ∈ call? extension, c.1 = "srcset" ∨ c.1 ∈ ["is", "not", "find"] ∧ IsSelector c.2)
    Prod.forall

instance : DecidablePred Address.IsValid := fun a =>
  decidable_of_iff ((a.selector ≠ "" → IsSelector a.selector) ∧ IsExtension a.extension)
    ⟨fun h => ⟨h.1, h.2⟩, fun h => ⟨h.1, h.2⟩⟩

theorem exists_select {text : String} (h : IsSelector text) (s : Site) :
    ∃ sites, select s text = .ok sites := by
  obtain ⟨selectors, hread, hknown⟩ := h
  exact ⟨_, by simp [select, hread, hknown]; rfl⟩

theorem exists_extensionValue {extension : String} (h : IsExtension extension) (s : Site) :
    ∃ v, extensionValue s extension = .ok v := by
  unfold extensionValue
  split
  · exact ⟨_, rfl⟩
  · rename_i name argument hcall
    rcases h name argument hcall with rfl | ⟨hname, hselector⟩
    · exact ⟨_, rfl⟩
    · obtain ⟨sites, hsites⟩ := exists_select hselector s
      simp only [List.mem_cons, List.not_mem_nil, or_false] at hname
      rcases hname with rfl | rfl | rfl
      · exact ⟨_, Except.bind_of_ok _ hsites⟩
      · exact ⟨_, Except.bind_of_ok _ hsites⟩
      · cases hlast : sites.getLast? with
        | none => exact ⟨.null, (Except.bind_of_ok _ hsites).trans (by rw [hlast]; rfl)⟩
        | some found => exact ⟨_, (Except.bind_of_ok _ hsites).trans (by rw [hlast]; rfl)⟩

theorem Address.IsValid.exists_nodeValue {a : Address} (h : a.IsValid) (type : DataType)
    (s : Site) : ∃ v, a.nodeValue type s = .ok v := by
  unfold nodeValue
  split_ifs
  · exact ⟨_, rfl⟩
  · exact ⟨_, rfl⟩
  · exact exists_extensionValue h.extension s

theorem Address.IsValid.exists_pageValue? {a : Address} (h : a.IsValid) (root : Site)
    (url : String) : ∃ v, pageValue? root url a.extension = .ok v := by
  unfold pageValue?
  split_ifs
  · exact ⟨_, rfl⟩
  · exact ⟨_, rfl⟩
  · obtain ⟨v, hv⟩ := exists_extensionValue h.extension root
    exact ⟨_, Except.bind_of_ok _ hv⟩

/-- What stands in a row under a name. -/
def cell? (rows : List Row) (i : ℕ) (name : String) : Option Value :=
  rows[i]?.bind (·.get? name)

theorem length_putColumn (name : String) (rows : List Row) (vs : List Value) :
    (putColumn name rows vs).length = max rows.length vs.length := by
  induction vs generalizing rows with
  | nil => simp [putColumn]
  | cons v vs ih =>
    cases rows with
    | nil => simp [putColumn, ih]
    | cons row rows => simp [putColumn, ih, Nat.succ_max_succ]

theorem cell?_putColumn (name : String) (rows : List Row) (vs : List Value) (i : ℕ) (k : String) :
    cell? (putColumn name rows vs) i k =
      if k = name then vs[i]?.or (cell? rows i k) else cell? rows i k := by
  induction vs generalizing rows i with
  | nil => simp [putColumn]
  | cons v vs ih =>
    have hnew : [(name, v)] = Row.put [] name v := rfl
    rcases rows with _ | ⟨row, rows⟩ <;> rcases i with _ | i
    · have hempty : Row.get? [] k = none := rfl
      by_cases hk : k = name <;> simp [putColumn, cell?, hnew, Row.get?_put, hk, hempty]
    · simpa [putColumn, cell?] using ih [] i
    · by_cases hk : k = name <;> simp [putColumn, cell?, Row.get?_put, hk]
    · simpa [putColumn, cell?] using ih rows i

variable {root : Site} {text url : String} {attributes : List Attribute} {a : Attribute} {t : Table}

/-- The address of an attribute in a page. -/
def address (a : Attribute) : Address := .ofText a.dataAddress

/-- The elements that an attribute means, in the order of the page; none without selector. -/
def elementsOf (root : Site) (a : Attribute) : List Site :=
  if (address a).selector = "" then []
  else
    match select root (address a).selector with
    | .ok sites => sites
    | .error _ => []

/-- The values of an attribute, one for each element that it means. -/
def cellsOf (root : Site) (a : Attribute) : List Value :=
  (elementsOf root a).map fun s =>
    match (address a).nodeValue a.dataType s with
    | .ok v => scalar a.dataType v
    | .error _ => .null

/-- What an attribute without selector says of the page. -/
def pageOf (root : Site) (url : String) (a : Attribute) : Option Value :=
  if (address a).selector = "" then
    match pageValue? root url (address a).extension with
    | .ok v => v
    | .error _ => none
  else none

/-- A table with the column and the value for the page of one more attribute. -/
def Table.extend (root : Site) (url : String) (t : Table) (a : Attribute) : Table where
  rows := putColumn a.name t.rows (cellsOf root a)
  page :=
    match pageOf root url a with
    | some v => t.page.put a.name v
    | none => t.page

/-- Elements that stand in the order of the page, each once, stay as they are. -/
theorem Site.inOrder_of_pairwise {sites : List Site}
    (h : sites.Pairwise fun s t => precedes s.place t.place = true ∧ s.place ≠ t.place) :
    inOrder sites = sites := by
  have hsorted : (sites.map fun s => (s.place, s)).mergeSort (fun a b => precedes a.1 b.1) =
      sites.map fun s => (s.place, s) :=
    List.mergeSort_of_pairwise (List.pairwise_map.2 (h.imp And.left))
  have hplaces : (sites.map fun s => (s.place, s)).Pairwise fun a b => a.1 ≠ b.1 :=
    List.pairwise_map.2 (h.imp And.right)
  rw [inOrder, hsorted]
  rw [List.foldr_eq_self hplaces, List.map_map]
  · exact List.map_id sites
  · exact fun _ => rfl
  · exact fun _ _ _ hne => if_neg hne

/-- The elements that a text selects, one selector after the other. -/
def matched (root : Site) (text : String) : List Site :=
  ((Selector.read? text).getD []).flatMap (·.select root)

theorem elementsOf_of_pairwise (h : (address a).IsValid) (hselector : (address a).selector ≠ "")
    (hplaces : (matched root (address a).selector).Pairwise fun s t =>
      Site.precedes s.place t.place = true ∧ s.place ≠ t.place) :
    elementsOf root a = matched root (address a).selector := by
  obtain ⟨selectors, hread, hknown⟩ := h.selector hselector
  rw [matched, hread, Option.getD_some] at hplaces ⊢
  simp only [elementsOf, if_neg hselector, select, hread, hknown, if_true]
  exact Site.inOrder_of_pairwise hplaces

theorem select_eq_elementsOf (h : (address a).IsValid) (hselector : (address a).selector ≠ "") :
    select root (address a).selector = .ok (elementsOf root a) := by
  obtain ⟨sites, hsites⟩ := exists_select (h.selector hselector) root
  rw [elementsOf, if_neg hselector, hsites]

theorem column_eq_cellsOf (h : (address a).IsValid) (hselector : (address a).selector ≠ "") :
    column root a.dataType (address a) = .ok (cellsOf root a) := by
  rw [column, Except.bind_of_ok _ (select_eq_elementsOf h hselector), List.mapM_eq_ok_iff, cellsOf,
    List.forall₂_map_right_iff, List.forall₂_same]
  intro s _
  obtain ⟨v, hv⟩ := h.exists_nodeValue a.dataType s
  rw [Except.bind_of_ok _ hv, hv]
  rfl

theorem Table.addAttribute_eq (hremote : a.hasRemoteAddress = true) (h : (address a).IsValid)
    (t : Table) : Table.addAttribute root url t a = .ok (t.extend root url a) := by
  have haddress : Address.ofText a.dataAddress = address a := rfl
  rw [Table.addAttribute, hremote, Table.extend]
  simp only [Bool.not_true, Bool.false_eq_true, if_false, haddress]
  by_cases hselector : (address a).selector = ""
  · obtain ⟨v, hv⟩ := h.exists_pageValue? root url
    have hcells : cellsOf root a = [] := by rw [cellsOf, elementsOf, if_pos hselector]; rfl
    rw [if_pos hselector, Except.bind_of_ok _ hv, hcells, pageOf, if_pos hselector, hv]
    cases v <;> simp [putColumn] <;> rfl
  · rw [if_neg hselector, Except.bind_of_ok _ (column_eq_cellsOf h hselector), pageOf,
      if_neg hselector]
    rfl

namespace Table

theorem length_rows_foldl_extend (root : Site) (url : String) (attributes : List Attribute)
    (t : Table) :
    (attributes.foldl (extend root url) t).rows.length =
      (attributes.map fun a => (elementsOf root a).length).foldl max t.rows.length := by
  induction attributes generalizing t with
  | nil => rfl
  | cons a attributes ih =>
    have hlength : (t.extend root url a).rows.length =
        max t.rows.length (elementsOf root a).length := by
      rw [extend, length_putColumn, cellsOf, List.length_map]
    rw [List.foldl_cons, ih, hlength, List.map_cons, List.foldl_cons]

/-- The column of an attribute leaves the cells of other names as they are. -/
theorem cell?_extend_of_ne {name : String} (h : name ≠ a.name) (t : Table) (i : ℕ) :
    cell? (t.extend root url a).rows i name = cell? t.rows i name := by
  rw [extend, cell?_putColumn, if_neg h]

theorem get?_page_extend (t : Table) (name : String) :
    (t.extend root url a).page.get? name =
      if name = a.name then (pageOf root url a).or (t.page.get? name) else t.page.get? name := by
  unfold extend
  cases pageOf root url a with
  | none => simp
  | some v => simp [Row.get?_put]

theorem nodup_page_foldl_extend (root : Site) (url : String) (attributes : List Attribute)
    (h : t.page.names.Nodup) :
    (attributes.foldl (extend root url) t).page.names.Nodup := by
  induction attributes generalizing t with
  | nil => exact h
  | cons a attributes ih =>
    refine ih ?_
    unfold extend
    cases pageOf root url a with
    | none => exact h
    | some v => exact Row.nodup_put h a.name v

theorem foldl_extend_of_not_mem (root : Site) (url : String) {name : String}
    (h : name ∉ attributes.map (·.name)) (t : Table) :
    (∀ i, cell? (attributes.foldl (extend root url) t).rows i name = cell? t.rows i name) ∧
      (attributes.foldl (extend root url) t).page.get? name = t.page.get? name := by
  induction attributes generalizing t with
  | nil => exact ⟨fun _ => rfl, rfl⟩
  | cons a attributes ih =>
    rw [List.map_cons, List.mem_cons, not_or] at h
    obtain ⟨hcells, hpage⟩ := ih h.2 (t.extend root url a)
    refine ⟨fun i => (hcells i).trans (cell?_extend_of_ne h.1 t i), hpage.trans ?_⟩
    rw [get?_page_extend, if_neg h.1]

/-- As no two attributes have one name, what stands under a name is what its attribute gives. -/
theorem foldl_extend_of_mem (root : Site) (url : String)
    (h : (attributes.map (·.name)).Nodup) (ha : a ∈ attributes) :
    (∀ i, cell? (attributes.foldl (extend root url) {}).rows i a.name = (cellsOf root a)[i]?) ∧
      (attributes.foldl (extend root url) {}).page.get? a.name = pageOf root url a := by
  obtain ⟨before, after, rfl⟩ := List.append_of_mem ha
  rw [List.map_append, List.map_cons, List.nodup_middle, List.nodup_cons, List.mem_append,
    not_or] at h
  rw [List.foldl_append, List.foldl_cons]
  obtain ⟨hbefore, hbeforePage⟩ := foldl_extend_of_not_mem root url h.1.1 {}
  obtain ⟨hafter, hafterPage⟩ := foldl_extend_of_not_mem root url h.1.2
    ((before.foldl (extend root url) {}).extend root url a)
  refine ⟨fun i => ?_, ?_⟩
  · rw [hafter, extend, cell?_putColumn, if_pos rfl, hbefore]
    simp [cell?]
  · rw [hafterPage, get?_page_extend, if_pos rfl, hbeforePage]
    simp [Row.get?]

end Table

/-- What a row holds for an attribute: the value of its element of that number, if there are so
many, or else what it says of the page. -/
structure LinesUp (root : Site) (url : String) (a : Attribute) (i : ℕ) (row : Row) : Prop where
  filled : (address a).selector ≠ "" →
    ((row.get? a.name).isSome ↔ i < (elementsOf root a).length)
  cell : ∀ s, (elementsOf root a)[i]? = some s →
    ∃ v, (address a).nodeValue a.dataType s = .ok v ∧ row.get? a.name = some (scalar a.dataType v)
  page : (address a).selector = "" →
    ∃ v, pageValue? root url (address a).extension = .ok v ∧ row.get? a.name = v

theorem linesUp_of_get?_eq {i : ℕ} {row : Row} (h : (address a).IsValid)
    (hrow : row.get? a.name = (pageOf root url a).or (cellsOf root a)[i]?) :
    LinesUp root url a i row := by
  by_cases hselector : (address a).selector = ""
  · have helements : elementsOf root a = [] := if_pos hselector
    refine ⟨fun hne => absurd hselector hne, fun s hs => ?_, fun _ => ?_⟩
    · rw [helements] at hs
      cases hs
    · obtain ⟨v, hv⟩ := h.exists_pageValue? root url
      refine ⟨v, hv, ?_⟩
      rw [hrow, cellsOf, helements, pageOf, if_pos hselector, hv]
      simp
  · rw [pageOf, if_neg hselector, Option.none_or, cellsOf, List.getElem?_map] at hrow
    refine ⟨fun _ => ?_, fun s hs => ?_, fun heq => absurd heq hselector⟩
    · rw [hrow, Option.isSome_map, isSome_getElem?]
    · obtain ⟨v, hv⟩ := h.exists_nodeValue a.dataType s
      rw [hs, Option.map_some, hv] at hrow
      exact ⟨v, hv, hrow⟩

theorem rows_eq (htext : trim text ≠ "") (hroot : document text = .ok root)
    (h : ∀ a ∈ attributes, a.hasRemoteAddress = true ∧ (address a).IsValid) :
    rows text url attributes = .ok
      ((attributes.foldl (Table.extend root url) {}).rows.map fun row =>
        (attributes.foldl (Table.extend root url) {}).page.foldl
          (fun row e => row.put e.1 e.2) row) := by
  have htable : attributes.foldlM (Table.addAttribute root url) {} =
      .ok (attributes.foldl (Table.extend root url) {}) :=
    List.foldlM_of_ok (fun t a ha => Table.addAttribute_eq (h a ha).1 (h a ha).2 t) {}
  rw [rows, if_neg htext, Except.bind_of_ok _ hroot, Except.bind_of_ok _ htable]
  rfl

/-- The columns of a page with elements line up into rows. -/
theorem container_linesUp (text url : String) (attributes : List Attribute) (root : Site)
    (htext : trim text ≠ "") (hroot : document text = .ok root)
    (hnames : (attributes.map (·.name)).Nodup)
    (hattributes : ∀ a ∈ attributes, a.hasRemoteAddress = true ∧ (address a).IsValid) :
    ∃ rows : List Row,
      container text url attributes = .ok (if rows = [] then .empty else .many (rows.map .map)) ∧
        rows.length = (attributes.map fun a => (elementsOf root a).length).foldl max 0 ∧
        (rows = [] ↔ ∀ a ∈ attributes, elementsOf root a = []) ∧
        ∀ i row, rows[i]? = some row → ∀ a ∈ attributes, LinesUp root url a i row := by
  have hlength := Table.length_rows_foldl_extend root url attributes {}
  have hnodup : (attributes.foldl (Table.extend root url) {}).page.names.Nodup :=
    Table.nodup_page_foldl_extend root url attributes List.nodup_nil
  have hcells := fun a => Table.foldl_extend_of_mem (a := a) root url hnames
  generalize ht : attributes.foldl (Table.extend root url) {} = t at hlength hnodup hcells
  refine ⟨t.rows.map fun row => t.page.foldl (fun row e => row.put e.1 e.2) row, ?_, ?_, ?_,
    fun i row hrow a ha => ?_⟩
  · rw [container, Except.bind_of_ok _ (rows_eq htext hroot hattributes), ht]
    cases t.rows <;> rfl
  · rw [List.length_map, hlength]
    rfl
  · rw [List.map_eq_nil_iff, ← List.length_eq_zero_iff, hlength, List.foldl_max_eq_zero_iff]
    simp
  · rw [List.getElem?_map, Option.map_eq_some_iff] at hrow
    obtain ⟨filled, hfilled, rfl⟩ := hrow
    obtain ⟨hcell, hpage⟩ := hcells a ha
    refine linesUp_of_get?_eq (hattributes a ha).2 ?_
    rw [Row.get?_foldl_put_eq, Row.get?_ofEntries_of_nodup hnodup, hpage, ← hcell i, cell?,
      hfilled, Option.bind_some]

/-- A page with two elements, of which the first has a class. -/
def shelf : String := "<ul><li class=sold>12</li><li>30</li></ul>"

def shelfRoot : Site := (Site.ofText? shelf).getD default

def priceAttribute : Attribute := { name := "price", dataAddress := "li", dataType := .integer }

def stateAttribute : Attribute := { name := "state", dataAddress := "li.sold ->class" }

def urlAttribute : Attribute := { name := "page", dataAddress := "->url" }

theorem container_linesUp_shelf :
    trim shelf ≠ "" ∧ document shelf = .ok shelfRoot ∧
    ([priceAttribute, stateAttribute, urlAttribute].map (·.name)).Nodup ∧
    (∀ a ∈ [priceAttribute, stateAttribute, urlAttribute],
      a.hasRemoteAddress = true ∧ (address a).IsValid) ∧
    ∃ rows : List Row,
      container shelf "http://shelf" [priceAttribute, stateAttribute, urlAttribute] =
        .ok (.many (rows.map .map)) ∧
      rows.length = 2 ∧
      ∀ row, rows[1]? = some row →
        row.get? "price" = some (.int 30) ∧ row.get? "state" = none ∧
        row.get? "page" = some (.str "http://shelf") := by
  have htext : trim shelf ≠ "" := by decide +kernel
  have hroot : document shelf = .ok shelfRoot := by
    have hsome : (Site.ofText? shelf).isSome = true := by decide +kernel
    have hencoding : declaresEncoding shelf ≠ true := by decide +kernel
    obtain ⟨root, hroot⟩ := Option.isSome_iff_exists.1 hsome
    rw [document, if_neg hencoding, shelfRoot, hroot]
    rfl
  have hnames : ([priceAttribute, stateAttribute, urlAttribute].map (·.name)).Nodup := by decide
  have hattributes : ∀ a ∈ [priceAttribute, stateAttribute, urlAttribute],
      a.hasRemoteAddress = true ∧ (address a).IsValid := by decide +kernel
  have hprices : elementsOf shelfRoot priceAttribute = matched shelfRoot "li" :=
    elementsOf_of_pairwise (hattributes _ (by simp)).2 (by decide +kernel) (by decide +kernel)
  have hstates : elementsOf shelfRoot stateAttribute = matched shelfRoot "li.sold" :=
    elementsOf_of_pairwise (hattributes _ (by simp)).2 (by decide +kernel) (by decide +kernel)
  have hurls : elementsOf shelfRoot urlAttribute = [] := if_pos (by decide +kernel)
  have hprice : (matched shelfRoot "li").length = 2 := by decide +kernel
  have hstate : (matched shelfRoot "li.sold").length = 1 := by decide +kernel
  obtain ⟨rows, hrows, hlength, -, hlines⟩ :=
    container_linesUp shelf "http://shelf" _ shelfRoot htext hroot hnames hattributes
  simp only [List.map_cons, List.map_nil, hprices, hstates, hurls, hprice, hstate] at hlength
  have hne : rows ≠ [] := fun h => by simp [h] at hlength
  refine ⟨htext, hroot, hnames, hattributes, rows, ?_, hlength, fun row hrow => ⟨?_, ?_, ?_⟩⟩
  · rw [hrows, if_neg hne]
  · have hvalue : (matched shelfRoot "li")[1]?.map
        ((address priceAttribute).nodeValue .integer) = some (.ok (.str "30")) := by decide +kernel
    obtain ⟨s, hs, hs'⟩ := Option.map_eq_some_iff.1 hvalue
    obtain ⟨v, hv, hrow⟩ :=
      (hlines 1 row hrow priceAttribute (by simp)).cell s (by rw [hprices, hs])
    cases hs'.symm.trans hv
    exact hrow.trans (by decide +kernel)
  · have hfilled :=
      (hlines 1 row hrow stateAttribute (by simp)).filled (by decide +kernel)
    rw [hstates, hstate] at hfilled
    exact Option.not_isSome_iff_eq_none.1 (mt hfilled.1 (Nat.lt_irrefl 1))
  · obtain ⟨v, hv, hrow⟩ := (hlines 1 row hrow urlAttribute (by simp)).page (by decide +kernel)
    have hurl : pageValue? shelfRoot "http://shelf" (address urlAttribute).extension =
      .ok (some (.str "http://shelf")) := by decide +kernel
    cases hv.symm.trans hurl
    exact hrow

/-- A page that is not blank and has no element. -/
def unwritten : String := "<!-- nothing yet -->"

/-- Nothing lines up in a page without elements: it cannot be read. -/
theorem container_unwritten :
    trim unwritten ≠ "" ∧ ([priceAttribute].map (·.name)).Nodup ∧
      (∀ a ∈ [priceAttribute], a.hasRemoteAddress = true ∧ (address a).IsValid) ∧
      container unwritten "" [priceAttribute] = .error (.malformed .html) := by
  refine ⟨by decide +kernel, by decide, by decide +kernel, ?_⟩
  have hnone : (Site.ofText? unwritten).isNone = true := by decide +kernel
  have hencoding : declaresEncoding unwritten ≠ true := by decide +kernel
  have hblank : trim unwritten ≠ "" := by decide +kernel
  rw [container, rows, if_neg hblank, document, if_neg hencoding, Option.isNone_iff_eq_none.1 hnone]
  rfl

end EntityQuery.Html
