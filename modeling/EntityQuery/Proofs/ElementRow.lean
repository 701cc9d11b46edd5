import EntityQuery.Proofs.RowEntries
import EntityQuery.Proofs.Separation
import EntityQuery.Xml.Basic
import EntityQuery.Xml.Document

/-!
# Rows of elements

An element with attributes or child elements is a map. Its child elements are added one by one, and
a second one of a name makes a list of the two. No value of an element is a list itself, so that at
each step the values that came under a name can be told from what stands there
(`get?_foldl_addChild`). So the map has every child under its local name, in the order of the
document, and beside the children only the attributes and the leading text (`value_element_holds`).
-/

namespace EntityQuery.Xml

open Text Markup

/-- A full name is made of a namespace, if there is one, and a simple name. -/
def HasLocalPart (name t : String) : Prop :=
  isSimpleName t.toList = true ∧
    ∃ space : String, '\x7d' ∉ space.toList ∧ name = inNamespace space t

/-- Whether a node is an element with a local name, in whatever namespace. -/
def IsNamed (t : String) (n : Node) : Prop := ∃ name ∈ n.name?, HasLocalPart name t

theorem mem_of_isSimpleName {t : String} (h : isSimpleName t.toList = true) :
    ∀ c ∈ t.toList, isNameChar c = true := by
  cases ht : t.toList with
  | nil => simp
  | cons c r =>
    rw [ht] at h
    simp only [isSimpleName, Bool.and_eq_true, List.all_eq_true] at h
    simp only [List.mem_cons, forall_eq_or_imp]
    exact ⟨by simp [isNameChar, h.1], h.2⟩

theorem brace_not_mem {t : String} (h : isSimpleName t.toList = true) : '\x7d' ∉ t.toList :=
  fun hmem => absurd (mem_of_isSimpleName h _ hmem) (by decide)

theorem cut?_inNamespace {space t : String} (hspace : '\x7d' ∉ space.toList)
    (ht : isSimpleName t.toList = true) : cut? "\x7d" (inNamespace space t) =
      if space = "" then none else some ("\x7b" ++ space, t) := by
  have hbrace : '\x7d' ∉ ("\x7b" ++ space).toList := by simp [hspace]
  unfold inNamespace
  split_ifs
  · exact cut?_of_not_mem rfl (brace_not_mem ht)
  · exact cut?_append rfl hbrace

theorem localName_of_hasLocalPart {name t : String} (h : HasLocalPart name t) :
    localName name = t := by
  obtain ⟨ht, space, hspace, rfl⟩ := h
  rw [localName, cut?_inNamespace hspace ht]
  split_ifs with hempty <;> simp [inNamespace, hempty]

/-- The namespace of a full name. -/
def spaceOf (name : String) : String :=
  ((cut? "\x7d" name).map fun p => String.ofList (p.1.toList.drop 1)).getD ""

theorem hasLocalPart_iff_spaceOf {name t : String} : HasLocalPart name t ↔
    isSimpleName t.toList = true ∧ '\x7d' ∉ (spaceOf name).toList ∧
      name = inNamespace (spaceOf name) t := by
  refine and_congr_right fun ht => ⟨?_, fun h => ⟨_, h⟩⟩
  rintro ⟨space, hspace, rfl⟩
  have hof : spaceOf (inNamespace space t) = space := by
    rw [spaceOf, cut?_inNamespace hspace ht]
    split_ifs with hempty <;> simp [hempty]
  rw [hof]
  exact ⟨hspace, rfl⟩

instance (name t : String) : Decidable (HasLocalPart name t) :=
  decidable_of_iff' _ hasLocalPart_iff_spaceOf

instance (t : String) (n : Node) : Decidable (IsNamed t n) :=
  inferInstanceAs (Decidable (∃ name ∈ n.name?, HasLocalPart name t))

theorem hasLocalPart_iff {name t : String} (h : ∃ u, HasLocalPart name u) :
    HasLocalPart name t ↔ localName name = t := by
  obtain ⟨u, hu⟩ := h
  constructor
  · exact localName_of_hasLocalPart
  · rintro rfl
    rwa [localName_of_hasLocalPart hu]

theorem ne_text_of_isSimpleName {t : String} (h : isSimpleName t.toList = true) : t ≠ "#text" := by
  rintro rfl
  exact absurd h (by decide)

theorem ne_at_of_isSimpleName {t k : String} (h : isSimpleName t.toList = true) : "@" ++ k ≠ t := by
  rintro rfl
  simp [isSimpleName] at h
  exact absurd h.1 (by decide)

/-- What stands under a name that several values came under: nothing, the only one or all. -/
def gathered : List Value → Option Value
  | [] => none
  | [v] => some v
  | vs => some (.list vs)

/-- The child elements under their local names. -/
def entries (children : List Node) : List (String × Value) :=
  children.filterMap fun c => c.name?.map fun name => (localName name, value c)

/-- The values of the entries of a name. -/
def valuesOf (t : String) (es : List (String × Value)) : List Value :=
  (es.filter (·.1 = t)).map Prod.snd

variable {row : Row} {name t : String} {v : Value} {vs ws : List Value}
  {es : List (String × Value)} {children : List Node} {attributes : Attributes}

theorem valuesOf_cons (t : String) (e : String × Value) (es : List (String × Value)) :
    valuesOf t (e :: es) = if e.1 = t then e.2 :: valuesOf t es else valuesOf t es := by
  by_cases h : e.1 = t <;> simp [valuesOf, h]

theorem gathered_injective (hvs : ∀ v ∈ vs, v.isList = false) (hws : ∀ w ∈ ws, w.isList = false)
    (h : gathered vs = gathered ws) : vs = ws := by
  rcases vs with _ | ⟨v, _ | ⟨v', vs⟩⟩ <;> rcases ws with _ | ⟨w, _ | ⟨w', ws⟩⟩ <;>
    simp only [gathered, Option.some.injEq, reduceCtorEq, Value.list.injEq] at h
  · rfl
  · rw [h]
  · exact absurd (hvs v (by simp)) (by simp [h, Value.isList])
  · exact absurd (hws w (by simp)) (by simp [← h, Value.isList])
  · exact h

theorem isList_value (n : Node) : (value n).isList = false := by
  cases n with
  | element name attributes children =>
    unfold value
    dsimp only
    split_ifs <;> rfl
  | text | comment | instruction => rfl

theorem isList_of_mem_entries : ∀ e ∈ entries children, e.2.isList = false := by
  intro e he
  simp only [entries, List.mem_filterMap, Option.map_eq_some_iff] at he
  obtain ⟨c, -, name, -, rfl⟩ := he
  exact isList_value c

theorem addChildren_eq_foldl (row : Row) (children : List Node) :
    addChildren row children =
      (entries children).foldl (fun row e => addChild row e.1 e.2) row := by
  induction children generalizing row with
  | nil => rfl
  | cons c rest ih =>
    rw [addChildren, ih]
    cases c <;> rfl

/-- One more value under a name joins those that came under it before. -/
theorem get?_addChild (hvs : ∀ v ∈ vs, v.isList = false) (h : row.get? t = gathered vs)
    (v : Value) : (addChild row name v).get? t = gathered (if name = t then vs ++ [v] else vs) := by
  by_cases hname : name = t
  · subst hname
    unfold addChild
    rcases vs with _ | ⟨w, _ | ⟨w', vs⟩⟩
    · simp [h, gathered, Row.get?_put]
    · have hw := hvs w (by simp)
      cases w <;> simp_all [gathered, Row.get?_put, Value.isList]
    · simp [h, gathered, Row.get?_put]
  · have hkeep : ∀ w, (row.put name w).get? t = row.get? t := by
      intro w
      rw [Row.get?_put, if_neg (Ne.symm hname)]
    rw [if_neg hname, ← h]
    unfold addChild
    split <;> exact hkeep _

theorem get?_foldl_addChild (hes : ∀ e ∈ es, e.2.isList = false)
    (hvs : ∀ v ∈ vs, v.isList = false) (h : row.get? t = gathered vs) :
    (es.foldl (fun row e => addChild row e.1 e.2) row).get? t = gathered (vs ++ valuesOf t es) := by
  induction es generalizing row vs with
  | nil => simpa [valuesOf] using h
  | cons e es ih =>
    rw [List.forall_mem_cons] at hes
    have hstep : (addChild row e.1 e.2).get? t = _ := get?_addChild hvs h e.2
    rw [List.foldl_cons, valuesOf_cons]
    split_ifs at hstep ⊢ with hname
    · rw [ih hes.2 ?_ hstep, List.append_assoc, List.singleton_append]
      intro w hw
      rcases List.mem_append.1 hw with hw | hw
      · exact hvs w hw
      · exact List.mem_singleton.1 hw ▸ hes.1
    · rw [ih hes.2 hvs hstep]

/-- The entries of a name are the children of that name. -/
theorem valuesOf_entries (h : ∀ c ∈ children, c.isElement = true → ∃ t, IsNamed t c) (t : String) :
    valuesOf t (entries children) = (children.filter fun c => IsNamed t c).map value := by
  induction children with
  | nil => rfl
  | cons c rest ih =>
    rw [List.forall_mem_cons] at h
    have ih := ih h.2
    cases c with
    | element name attributes children =>
      have hnamed : IsNamed t (.element name attributes children) ↔ localName name = t := by
        obtain ⟨u, name, ⟨⟩, hu⟩ := h.1 rfl
        rw [← hasLocalPart_iff ⟨u, hu⟩]
        simp [IsNamed, Node.name?]
      change valuesOf t ((localName name, _) :: entries rest) = _
      rw [valuesOf_cons, ih, List.filter_cons]
      by_cases hname : localName name = t <;> simp [hnamed, hname]
    | text | comment | instruction =>
      simpa [entries, IsNamed, Node.name?, List.filterMap_cons, List.filter_cons] using ih

theorem valuesOf_eq_nil (h : ∀ e ∈ es, e.1 ≠ t) : valuesOf t es = [] := by
  simpa [valuesOf] using h

/-- Child elements come under simple names. -/
theorem isSimpleName_of_mem_entries
    (h : ∀ c ∈ children, c.isElement = true → ∃ t, IsNamed t c) :
    ∀ e ∈ entries children, isSimpleName e.1.toList = true := by
  intro e he
  simp only [entries, List.mem_filterMap, Option.map_eq_some_iff] at he
  obtain ⟨c, hc, name, hname, rfl⟩ := he
  obtain ⟨t, u, hu, ht⟩ := h c hc (by simp [Node.isElement, hname])
  obtain rfl : u = name := Option.some.inj (hu.symm.trans hname)
  rw [localName_of_hasLocalPart ht]
  exact ht.1

theorem nodup_foldl_addChild (h : row.names.Nodup) (es : List (String × Value)) :
    (es.foldl (fun row e => addChild row e.1 e.2) row).names.Nodup := by
  induction es generalizing row with
  | nil => exact h
  | cons e es ih =>
    have hstep : (addChild row e.1 e.2).names.Nodup := by
      unfold addChild
      split <;> exact Row.nodup_put h _ _
    exact ih hstep

/-- The map that an element with attributes or child elements is. -/
def elementRow (attributes : Attributes) (children : List Node) : Row :=
  let row := addChildren (attributeRow attributes) children
  let text := trim (leadingText children)
  if text = "" then row else row.put "#text" (.str text)

theorem value_element (name : String) (attributes : Attributes) (children : List Node) :
    value (.element name attributes children) =
      if attributes.isEmpty && !children.any (·.isElement) then
        if trim (leadingText children) = "" then .null else .str (trim (leadingText children))
      else .map (elementRow attributes children) := by
  simp only [value, elementRow]

theorem isSome_get?_attributeRow_iff : ((attributeRow attributes).get? t).isSome ↔
    ∃ a ∈ attributes, "@" ++ localName a.1 = t := by
  simp [attributeRow, Row.isSome_get?_ofEntries_iff]

theorem nodup_elementRow (attributes : Attributes) (children : List Node) :
    (elementRow attributes children).names.Nodup := by
  have hattributes : (attributeRow attributes).names.Nodup := Row.nodup_ofEntries _
  have hchildren := nodup_foldl_addChild hattributes (entries children)
  rw [← addChildren_eq_foldl] at hchildren
  unfold elementRow
  dsimp only
  split_ifs
  · exact hchildren
  · exact Row.nodup_put hchildren _ _

theorem isList_of_get?_attributeRow (h : (attributeRow attributes).get? t = some v) :
    v.isList = false := by
  have hmem := Row.mem_of_get?_ofEntries h
  simp only [List.mem_map, Prod.mk.injEq] at hmem
  obtain ⟨a, -, -, rfl⟩ := hmem
  rfl

/-- What may come under a name beside the text. -/
theorem isList_of_mem_values (attributes : Attributes) (children : List Node) :
    ∀ v ∈ ((attributeRow attributes).get? t).toList ++ valuesOf t (entries children),
      v.isList = false := by
  intro v hv
  rcases List.mem_append.1 hv with hv | hv
  · exact isList_of_get?_attributeRow (Option.mem_toList.1 hv)
  · obtain ⟨e, he, rfl⟩ := List.mem_map.1 hv
    exact isList_of_mem_entries e (List.mem_filter.1 he).1

theorem get?_addChildren (attributes : Attributes) (children : List Node) (t : String) :
    (addChildren (attributeRow attributes) children).get? t =
      gathered (((attributeRow attributes).get? t).toList ++ valuesOf t (entries children)) := by
  rw [addChildren_eq_foldl]
  refine get?_foldl_addChild isList_of_mem_entries (fun v hv => ?_) ?_
  · exact isList_of_get?_attributeRow (Option.mem_toList.1 hv)
  · cases (attributeRow attributes).get? t <;> rfl

/-- Beside the text, an element holds its attributes and its children. -/
theorem get?_elementRow (ht : t ≠ "#text") : (elementRow attributes children).get? t =
    gathered (((attributeRow attributes).get? t).toList ++ valuesOf t (entries children)) := by
  rw [← get?_addChildren]
  unfold elementRow
  dsimp only
  split_ifs
  · rfl
  · rw [Row.get?_put, if_neg ht]

theorem get?_elementRow_text (h : ∀ e ∈ entries children, e.1 ≠ "#text") :
    (elementRow attributes children).get? "#text" =
      if trim (leadingText children) = "" then none
      else some (.str (trim (leadingText children))) := by
  have hattributes : (attributeRow attributes).get? "#text" = none := by
    rw [← Option.not_isSome_iff_eq_none, isSome_get?_attributeRow_iff]
    rintro ⟨a, -, ha⟩
    simp [String.ext_iff] at ha
  unfold elementRow
  dsimp only
  split_ifs
  · rw [get?_addChildren, hattributes, valuesOf_eq_nil h]
    rfl
  · rw [Row.get?_put, if_pos rfl]

/-- An element with attributes or child elements holds each child element under its local name, all
in order where there are several of one name. Its keys that begin with `@` are the local names of
its attributes, and `#text` is there exactly if the leading text is not blank. -/
theorem value_element_holds (name : String) {attributes : Attributes} {children : List Node}
    (hrow : attributes ≠ [] ∨ ∃ c ∈ children, c.isElement = true)
    (hattributes : ∀ a ∈ attributes, ∃ k, HasLocalPart a.1 k)
    (hchildren : ∀ c ∈ children, c.isElement = true → ∃ t, IsNamed t c) :
    ∃ row : Row, value (.element name attributes children) = .map row ∧ row.names.Nodup ∧
      (∀ t, isSimpleName t.toList = true → row.get? t =
        match children.filter fun c => IsNamed t c with
        | [] => none
        | [c] => some (value c)
        | cs => some (.list (cs.map value))) ∧
      (∀ k, "@" ++ k ∈ row.names ↔ ∃ a ∈ attributes, HasLocalPart a.1 k) ∧
      ("#text" ∈ row.names ↔ trim (leadingText children) ≠ "") := by
  have hsimple := isSimpleName_of_mem_entries hchildren
  refine ⟨elementRow attributes children, ?_, nodup_elementRow _ _, fun t ht => ?_, fun k => ?_, ?_⟩
  · rw [value_element, if_neg]
    rcases hrow with hne | ⟨c, hc, helement⟩
    · simp [hne]
    · simp [List.any_eq_true.2 ⟨c, hc, helement⟩]
  · have hattribute : (attributeRow attributes).get? t = none := by
      rw [← Option.not_isSome_iff_eq_none, isSome_get?_attributeRow_iff]
      rintro ⟨a, -, ha⟩
      exact ne_at_of_isSimpleName ht ha
    rw [get?_elementRow (ne_text_of_isSimpleName ht), hattribute, valuesOf_entries hchildren]
    rcases children.filter fun c => IsNamed t c with _ | ⟨c, _ | ⟨c', cs⟩⟩ <;> rfl
  · have hat : ∀ e ∈ entries children, e.1 ≠ "@" ++ k :=
      fun e he => (ne_at_of_isSimpleName (hsimple e he)).symm
    rw [Row.mem_names_iff, get?_elementRow (by simp [String.ext_iff]), valuesOf_eq_nil hat,
      List.append_nil]
    have hone : ∀ o : Option Value, gathered o.toList = o := by rintro (_ | _) <;> rfl
    rw [hone, isSome_get?_attributeRow_iff]
    refine exists_congr fun a => and_congr_right fun ha => ?_
    rw [hasLocalPart_iff (hattributes a ha)]
    simp
  · rw [Row.mem_names_iff,
      get?_elementRow_text fun e he => ne_text_of_isSimpleName (hsimple e he)]
    split_ifs with hblank <;> simp [hblank]

def orderAttributes : Attributes := [("id", some "7"), ("\x7burn:a\x7dkind", none)]

def orderChildren : List Node := [
  .text " new ", .element "line" [] [.text "A"], .comment "gift", .element "note" [] [],
  .element "\x7burn:a\x7dline" [("n", some "2")] []]

/-- Children of one name from several namespaces are one list. -/
theorem value_element_holds_order :
    (orderAttributes ≠ [] ∨ ∃ c ∈ orderChildren, c.isElement = true) ∧
    (∀ a ∈ orderAttributes, ∃ k, HasLocalPart a.1 k) ∧
    (∀ c ∈ orderChildren, c.isElement = true → ∃ t, IsNamed t c) ∧
    ∃ row : Row, value (.element "order" orderAttributes orderChildren) = .map row ∧
      row.get? "line" = some (.list [.str "A", .map [("@n", .str "2")]]) ∧
      row.get? "note" = some .null ∧ row.get? "total" = none ∧
      "@kind" ∈ row.names ∧ "@unit" ∉ row.names ∧ "#text" ∈ row.names := by
  have hrow : orderAttributes ≠ [] ∨ ∃ c ∈ orderChildren, c.isElement = true := .inl nofun
  have hattributes : ∀ a ∈ orderAttributes, ∃ k, HasLocalPart a.1 k := by
    have h : ∀ a ∈ orderAttributes, ∃ k ∈ ["id", "kind"], HasLocalPart a.1 k := by decide +kernel
    exact fun a ha => (h a ha).imp fun _ => And.right
  have hnamed : ∀ c ∈ orderChildren, c.isElement = true → ∃ t, IsNamed t c := by
    have h : ∀ c ∈ orderChildren, c.isElement = true → ∃ t ∈ ["line", "note"], IsNamed t c := by
      decide +kernel
    exact fun c hc helement => (h c hc helement).imp fun _ => And.right
  obtain ⟨row, hvalue, -, hchildren, hkeys, htext⟩ :=
    value_element_holds "order" hrow hattributes hnamed
  refine ⟨hrow, hattributes, hnamed, row, hvalue, ?_, ?_, ?_, ?_, ?_, ?_⟩
  · exact (hchildren "line" (by decide)).trans (by decide +kernel)
  · exact (hchildren "note" (by decide)).trans (by decide +kernel)
  · exact (hchildren "total" (by decide)).trans (by decide +kernel)
  · exact (hkeys "kind").2 (by decide +kernel)
  · exact mt (hkeys "unit").1 (by decide +kernel)
  · exact htext.2 (by decide +kernel)

end EntityQuery.Xml
