import EntityQuery.Proofs.ElementRow

/-!
# Text around comments

The text of an element is what stands before its first node that is no text, be it a comment. So a
comment or an instruction between texts cuts the text off, and what stands behind it is lost. An
element has the value that it has without its comments exactly if nothing but blanks is lost, in it
and in every element inside (`value_uncommented_iff`).
-/

namespace EntityQuery

namespace Text

theorem filter_trimChars (cs : List Char) :
    (trimChars cs).filter (!isBlank ·) = cs.filter (!isBlank ·) := by
  have hdrop : ∀ ds : List Char, (ds.dropWhile isBlank).filter (!isBlank ·) =
      ds.filter (!isBlank ·) := by
    intro ds
    induction ds with
    | nil => rfl
    | cons d ds ih => by_cases hd : isBlank d = true <;> simp [hd, ih]
  rw [trimChars, stripChars, List.filter_reverse, hdrop, ← List.filter_reverse, List.reverse_reverse,
    hdrop]

theorem trimChars_append_of_blank {r : List Char} (hr : ∀ c ∈ r, isBlank c = true) (s : List Char) :
    trimChars (s ++ r) = trimChars s := by
  have hdrop : r.dropWhile isBlank = [] := List.dropWhile_eq_nil_iff.2 hr
  rw [trimChars, trimChars, stripChars, stripChars, List.dropWhile_append]
  split_ifs with hs
  · rw [hdrop, List.isEmpty_iff.1 hs]
  · rw [List.reverse_append, List.dropWhile_append_of_pos (by simpa using hr)]

theorem trim_eq_empty_iff {s : String} : trim s = "" ↔ ∀ c ∈ s.toList, isBlank c = true := by
  rw [trim, ← String.toList_eq_nil_iff, String.toList_ofList]
  constructor
  · intro h
    have hnone := filter_trimChars s.toList
    simpa [h, eq_comm (a := [])] using hnone
  · intro h
    exact trimChars_append_of_blank h []

/-- What is put behind a text is trimmed off exactly if it is blank. -/
theorem trim_append_eq_iff (s r : String) : trim (s ++ r) = trim s ↔ trim r = "" := by
  rw [trim_eq_empty_iff]
  constructor
  · intro h
    have hchars : trimChars (s.toList ++ r.toList) = trimChars s.toList := by
      simpa [trim, String.ofList_inj] using h
    have hkept := filter_trimChars (s.toList ++ r.toList)
    rw [hchars, filter_trimChars, List.filter_append] at hkept
    simpa using hkept
  · intro h
    rw [trim, trim, String.toList_append, trimChars_append_of_blank h]

end Text

namespace Xml

open Text Markup

/-- A text in front of nodes, joined to the text that they begin with. -/
def consText (content : String) : List Node → List Node
  | .text more :: rest => .text (content ++ more) :: rest
  | nodes => .text content :: nodes

mutual

/-- A node without the comments and instructions in it. -/
def uncommented : Node → Node
  | .element name attributes children => .element name attributes (uncommentedNodes children)
  | .text content => .text content
  | .comment content => .comment content
  | .instruction content => .instruction content

/-- Nodes without comments and instructions, the texts around these joined. -/
def uncommentedNodes : List Node → List Node
  | [] => []
  | .element name attributes children :: rest =>
    uncommented (.element name attributes children) :: uncommentedNodes rest
  | .text content :: rest => consText content (uncommentedNodes rest)
  | .comment _ :: rest | .instruction _ :: rest => uncommentedNodes rest

end

mutual

/-- The elements of a tree, its root among them. -/
def elementsIn : Node → List Node
  | .element name attributes children =>
    .element name attributes children :: elementsAmong children
  | .text _ | .comment _ | .instruction _ => []

/-- The elements among nodes and in them. -/
def elementsAmong : List Node → List Node
  | [] => []
  | n :: rest => elementsIn n ++ elementsAmong rest

end

/-- The text before the first element that stands behind a comment or an instruction. -/
def lostText : List Node → String
  | .text _ :: rest => lostText rest
  | .comment _ :: rest | .instruction _ :: rest => leadingText (uncommentedNodes rest)
  | .element _ _ _ :: _ | [] => ""

theorem leadingText_consText (content : String) (nodes : List Node) :
    leadingText (consText content nodes) = content ++ leadingText nodes := by
  rcases nodes with _ | ⟨_ | _ | _ | _, nodes⟩ <;> simp [consText, leadingText, String.append_assoc]

theorem leadingText_uncommentedNodes (nodes : List Node) :
    leadingText (uncommentedNodes nodes) = leadingText nodes ++ lostText nodes := by
  induction nodes with
  | nil => rfl
  | cons n rest ih =>
    cases n with
    | element => simp [uncommentedNodes, uncommented, leadingText, lostText]
    | text content =>
      rw [uncommentedNodes, leadingText_consText, ih, leadingText, lostText, String.append_assoc]
    | comment | instruction => simp [uncommentedNodes, leadingText, lostText]

theorem entries_consText (content : String) (nodes : List Node) :
    entries (consText content nodes) = entries nodes := by
  rcases nodes with _ | ⟨_ | _ | _ | _, nodes⟩ <;> rfl

theorem any_isElement_uncommentedNodes (nodes : List Node) :
    (uncommentedNodes nodes).any (·.isElement) = nodes.any (·.isElement) := by
  induction nodes with
  | nil => rfl
  | cons n rest ih =>
    cases n with
    | element => rfl
    | text content =>
      rw [uncommentedNodes, List.any_cons, ← ih]
      rcases uncommentedNodes rest with _ | ⟨_ | _ | _ | _, nodes⟩ <;> rfl
    | comment | instruction => simpa [uncommentedNodes, Node.isElement, Node.name?] using ih

/-- The names of the child elements stay. -/
theorem names_entries_uncommentedNodes (nodes : List Node) :
    (entries (uncommentedNodes nodes)).map Prod.fst = (entries nodes).map Prod.fst := by
  induction nodes with
  | nil => rfl
  | cons n rest ih =>
    cases n with
    | element name => exact congrArg (localName name :: ·) ih
    | text content => rw [uncommentedNodes, entries_consText, ih]; rfl
    | comment | instruction => rw [uncommentedNodes, ih]; rfl

/-- Entries of the same names are the same if they are under each name. -/
theorem eq_of_valuesOf_eq {es fs : List (String × Value)}
    (hnames : es.map Prod.fst = fs.map Prod.fst)
    (h : ∀ e ∈ es, valuesOf e.1 es = valuesOf e.1 fs) : es = fs := by
  induction es generalizing fs with
  | nil => exact (List.map_eq_nil_iff.1 hnames.symm).symm
  | cons e es ih =>
    obtain ⟨t, v⟩ := e
    rcases fs with _ | ⟨⟨u, w⟩, fs⟩
    · simp at hnames
    · simp only [List.map_cons, List.cons.injEq] at hnames
      obtain ⟨rfl, hnames⟩ := hnames
      rw [List.forall_mem_cons] at h
      have hfirst := h.1
      simp only [valuesOf_cons, if_true, List.cons.injEq] at hfirst
      obtain ⟨rfl, htails⟩ := hfirst
      rw [ih hnames fun e he => ?_]
      have hrest := h.2 e he
      simp only [valuesOf_cons] at hrest
      split_ifs at hrest with ht
      · rwa [← ht]
      · exact hrest

theorem entries_eq_nil {nodes : List Node} (h : nodes.any (·.isElement) = false) :
    entries nodes = [] := by
  simp only [entries, List.filterMap_eq_nil_iff, Option.map_eq_none_iff]
  intro n hn
  simpa [Node.isElement] using List.any_eq_false.1 h n hn

/-- Two elements with the same attributes and child elements of the same names have the same value
exactly if they have the same text and their child elements the same values. -/
theorem value_element_eq_iff {children children' : List Node} (name : String)
    (attributes : Attributes) (htext : ∀ e ∈ entries children, e.1 ≠ "#text")
    (hnames : (entries children').map Prod.fst = (entries children).map Prod.fst)
    (helement : children'.any (·.isElement) = children.any (·.isElement)) :
    value (.element name attributes children') = value (.element name attributes children) ↔
      trim (leadingText children') = trim (leadingText children) ∧
        entries children' = entries children := by
  have htext' : ∀ e ∈ entries children', e.1 ≠ "#text" := by
    intro e he
    have hmem : e.1 ∈ (entries children).map Prod.fst := hnames ▸ List.mem_map_of_mem he
    obtain ⟨f, hf, hname⟩ := List.mem_map.1 hmem
    exact hname ▸ htext f hf
  rw [value_element, value_element, helement]
  by_cases hleaf : (attributes.isEmpty && !children.any (·.isElement)) = true
  · have hnone : children.any (·.isElement) = false := by simp_all
    rw [if_pos hleaf, if_pos hleaf, entries_eq_nil hnone, entries_eq_nil (helement.trans hnone)]
    grind
  · rw [if_neg hleaf, if_neg hleaf, Value.map.injEq]
    constructor
    · intro h
      constructor
      · have hsame : _ = Row.get? _ "#text" := congrArg (Row.get? · "#text") h
        rw [get?_elementRow_text htext, get?_elementRow_text htext'] at hsame
        grind
      · refine eq_of_valuesOf_eq hnames fun e he => ?_
        have hsame : _ = Row.get? _ e.1 := congrArg (Row.get? · e.1) h
        rw [get?_elementRow (htext' e he), get?_elementRow (htext' e he)] at hsame
        exact List.append_cancel_left (gathered_injective (isList_of_mem_values _ _)
          (isList_of_mem_values _ _) hsame)
    · rintro ⟨hsame, hentries⟩
      rw [elementRow, elementRow, addChildren_eq_foldl, addChildren_eq_foldl, hsame, hentries]

/-- A tree of elements with names: each is a simple name, in whatever namespace. -/
def HasNames (n : Node) : Prop := ∀ e ∈ elementsIn n, ∃ space t : String,
  e.name? = some (inNamespace space t) ∧ isSimpleName t.toList = true

/-- No element comes under the key of texts, be there a closing brace in its namespace or not. -/
theorem localName_inNamespace_ne {t : String} (ht : isSimpleName t.toList = true) (space : String) :
    localName (inNamespace space t) ≠ "#text" := by
  unfold localName inNamespace
  split_ifs with hempty
  · rw [cut?_of_not_mem rfl (brace_not_mem ht)]
    exact ne_text_of_isSimpleName ht
  · cases hcut : cut? "\x7d" ("\x7b" ++ space ++ "\x7d" ++ t) with
    | none => simp [String.ext_iff]
    | some p =>
      obtain ⟨q, hq, rfl⟩ := Option.map_eq_some_iff.1 hcut
      intro htext
      have hrest : q.2 = "#text".toList := by rw [← htext, String.toList_ofList]
      have hwhole := cutChars?_eq_some hq
      have hsuffix : "#text".toList <:+ ('\x7b' :: space.toList) ++ '\x7d' :: t.toList :=
        ⟨q.1 ++ ['\x7d'], by rw [← hrest]; simpa using hwhole.symm⟩
      have hnumber : '#' ∉ '\x7d' :: t.toList := by
        simp only [List.mem_cons, not_or]
        exact ⟨by decide, fun hmem => absurd (mem_of_isSimpleName ht _ hmem) (by decide)⟩
      rcases List.suffix_or_suffix_of_suffix hsuffix (List.suffix_append _ _) with h | h
      · exact hnumber (h.subset (by decide))
      · exact absurd (h.subset List.mem_cons_self) (by decide)

theorem mem_elementsAmong_of_mem {nodes : List Node} {c : Node} (hc : c ∈ nodes)
    (helement : c.isElement = true) : c ∈ elementsAmong nodes := by
  induction nodes with
  | nil => cases hc
  | cons n rest ih =>
    rw [elementsAmong, List.mem_append]
    rcases List.mem_cons.1 hc with rfl | hc
    · cases c with
      | element => exact .inl (by simp [elementsIn])
      | text | comment | instruction => cases helement
    · exact .inr (ih hc)

mutual

theorem value_uncommented_iff_of_ne : ∀ n : Node,
    (∀ e ∈ elementsIn n, ∀ name ∈ e.name?, localName name ≠ "#text") →
    (value (uncommented n) = value n ↔ ∀ e ∈ elementsIn n, trim (lostText e.children) = "")
  | .element name attributes children, h => by
    rw [elementsIn, List.forall_mem_cons] at h
    have hentries : ∀ e ∈ entries children, e.1 ≠ "#text" := by
      intro e he
      obtain ⟨c, hc, hentry⟩ := List.mem_filterMap.1 he
      obtain ⟨childName, hname, rfl⟩ := Option.map_eq_some_iff.1 hentry
      exact h.2 c (mem_elementsAmong_of_mem hc (by simp [Node.isElement, hname])) childName hname
    rw [elementsIn, List.forall_mem_cons, ← entries_uncommentedNodes_iff children h.2, uncommented,
      value_element_eq_iff name attributes hentries (names_entries_uncommentedNodes children)
        (any_isElement_uncommentedNodes children),
      leadingText_uncommentedNodes, trim_append_eq_iff]
    rfl
  | .text _, _ | .comment _, _ | .instruction _, _ => by simp [uncommented, elementsIn]

theorem entries_uncommentedNodes_iff : ∀ ns : List Node,
    (∀ e ∈ elementsAmong ns, ∀ name ∈ e.name?, localName name ≠ "#text") →
    (entries (uncommentedNodes ns) = entries ns ↔
      ∀ e ∈ elementsAmong ns, trim (lostText e.children) = "")
  | [], _ => by simp [uncommentedNodes, elementsAmong]
  | .element name attributes children :: rest, h => by
    rw [elementsAmong, List.forall_mem_append] at h
    rw [elementsAmong, List.forall_mem_append, ← value_uncommented_iff_of_ne _ h.1,
      ← entries_uncommentedNodes_iff rest h.2]
    have hcons : ∀ n : Node, n.name? = some name →
        ∀ ns, entries (n :: ns) = (localName name, value n) :: entries ns := by
      intro n hn ns
      simp [entries, hn]
    rw [uncommentedNodes, hcons _ rfl, hcons _ rfl]
    simp
  | .text content :: rest, h => by
    rw [uncommentedNodes, entries_consText]
    exact entries_uncommentedNodes_iff rest h
  | .comment _ :: rest, h | .instruction _ :: rest, h => entries_uncommentedNodes_iff rest h

end

/-- A tree has the value that it has without comments and instructions exactly if in each of its
elements only blanks stand behind one of these and before the first child element. -/
theorem value_uncommented_iff {n : Node} (h : HasNames n) :
    value (uncommented n) = value n ↔ ∀ e ∈ elementsIn n, trim (lostText e.children) = "" := by
  refine value_uncommented_iff_of_ne n fun e he name hname => ?_
  obtain ⟨space, t, hspace, ht⟩ := h e he
  obtain rfl : name = inNamespace space t := Option.some.inj (hname.symm.trans hspace)
  exact localName_inNamespace_ne ht space

/-- An order with comments before, between and behind its elements, and in one of them. -/
def remarkedOrder : Node :=
  .element "\x7burn:a\x7dorder" [("id", some "7")] [
    .comment "draft", .text "\n ", .element "line" [] [.text "A", .instruction "end"],
    .comment "gift", .text "for you", .element "line" [] [.text "B"]]

theorem value_uncommented_iff_order : HasNames remarkedOrder ∧
    value (uncommented remarkedOrder) = value remarkedOrder := by
  have hnames : HasNames remarkedOrder := by
    have h : ∀ e ∈ elementsIn remarkedOrder, ∃ space ∈ ["", "urn:a"], ∃ t ∈ ["order", "line"],
        e.name? = some (inNamespace space t) ∧ isSimpleName t.toList = true := by
      decide +kernel
    intro e he
    obtain ⟨space, -, t, -, hname⟩ := h e he
    exact ⟨space, t, hname⟩
  exact ⟨hnames, (value_uncommented_iff hnames).2 (by decide +kernel)⟩

/-- A comment in the text of an element cuts the text off. -/
theorem value_uncommented_ne :
    (read? "<a>x<!--c-->y</a>").map value = some (.str "x") ∧
    (read? "<a>x<!--c-->y</a>").map (value ∘ uncommented) = some (.str "xy") := by
  decide +kernel

end Xml

end EntityQuery
