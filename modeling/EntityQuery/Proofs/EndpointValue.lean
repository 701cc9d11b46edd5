import EntityQuery.Proofs.PlaceholderScan
import EntityQuery.Proofs.QueryRoundTrip
import EntityQuery.Proofs.ReadAddress

/-!
# Values in addresses

The address of a read has the values of conditions in it, and two steps read it again. The value of
the condition that brings the address along is put in before the placeholders are filled in, so that
placeholders in the value, or at its ends, are filled in as well. And what follows the first
question mark is taken for parameters, wherever the question mark came from. A request goes to the
address that is meant, with the parameters of its plan, exactly if neither does any harm
(`readRequest_confined_iff`).
-/

namespace EntityQuery

open Text Url

/-- An address with placeholders; a condition that brings it along has a text of its own. -/
structure Template where
  text : String
  own : Option String := none
  deriving DecidableEq, Repr

namespace Template

variable {t : Template} {value : String → Option String}

/-- The address as it is read: its own text is put in first, and what comes of it is filled in. -/
def read? (t : Template) (value : String → Option String) : Option String :=
  fillPlaceholders? value
    (match t.own with
    | some v => replace valueMark v t.text
    | none => t.text)

/-- What is meant by a piece: the own text by the mark for it, else the value of a placeholder. -/
def pieceText? (t : Template) (value : String → Option String) (piece : Piece) :
    Option (List Char) :=
  match t.own with
  | some v => if piece.written = valueMark.toList then some v.toList else piece.fill? value
  | none => piece.fill? value

theorem pieceText?_plain (c : Char) : t.pieceText? value (.plain c) = some [c] := by
  have hmark : (Piece.plain c).written ≠ valueMark.toList := fun h =>
    absurd (congrArg List.length h) (show ¬1 = valueMark.toList.length by decide)
  unfold pieceText?
  cases t.own with
  | none => rfl
  | some v => exact if_neg hmark

/-- The address as it is meant: a text in the place of each placeholder, and nothing else. -/
def meant? (t : Template) (value : String → Option String) : Option String :=
  ((Piece.scan t.text).mapM (t.pieceText? value)).map fun parts => String.ofList parts.flatten

/-- A text stands in the place of a placeholder. -/
def Puts (t : Template) (value : String → Option String) (text : String) : Prop :=
  ∃ name written, .placeholder name written ∈ Piece.scan t.text ∧
    t.pieceText? value (.placeholder name written) = some text.toList

/-- Reading gives what is meant, up to a query string without parameters. -/
def ReadsAsMeant (t : Template) (value : String → Option String) : Prop :=
  ∃ address query, t.meant? value = some address ∧ t.read? value = some (address ++ query) ∧
    (query = "" ∨ ∃ signs, query = "?" ++ signs ∧ ∀ c ∈ signs.toList, c = '&')

/-- No placeholder begins in the own text, if there is one, or in the plain text around it. -/
def Inert (t : Template) : Prop :=
  ∀ v ∈ t.own, (∀ c ∈ v.toList, IsInert c) ∧ ∀ piece ∈ Piece.scan t.text, piece.IsInert

instance : Decidable t.Inert :=
  decidable_of_iff (t.own.all fun v => (v.toList.all fun c => decide (IsInert c)) &&
      (Piece.scan t.text).all fun piece => decide piece.IsInert)
    (by unfold Inert; cases t.own <;> simp)

theorem read?_of_none (h : t.own = none) : t.read? value = t.meant? value := by
  have hpieces : t.pieceText? value = Piece.fill? value := by
    funext piece
    rw [pieceText?, h]
  rw [read?, h, meant?, hpieces, fillPlaceholders?]

theorem map_flatten_mapM_flatMap {α β γ : Type} {f : α → List β} {g : β → Option (List γ)}
    {h : α → Option (List γ)} (hstep : ∀ a, ((f a).mapM g).map List.flatten = h a) (as : List α) :
    ((as.flatMap f).mapM g).map List.flatten = (as.mapM h).map List.flatten := by
  induction as with
  | nil => rfl
  | cons a as ih =>
    rw [List.flatMap_cons, List.mapM_append, List.mapM_cons, ← hstep]
    cases (f a).mapM g with
    | none => rfl
    | some first =>
      cases hrest : (as.flatMap f).mapM g with
      | none =>
        rw [hrest] at ih
        have hnone : as.mapM h = none := Option.map_eq_none_iff.1 ih.symm
        simp [hnone]
      | some rest =>
        rw [hrest] at ih
        obtain ⟨parts, hparts, hflat⟩ := Option.map_eq_some_iff.1 ih.symm
        simp [hparts, hflat]

theorem read?_of_isInert {v : String} (h : t.own = some v) (hv : ∀ c ∈ v.toList, IsInert c)
    (hpieces : ∀ piece ∈ Piece.scan t.text, piece.IsInert) : t.read? value = t.meant? value := by
  have hmark : valueMark.toList = '[' :: '#' :: "value".toList ++ ['#', ']'] := by decide
  have hscan : Piece.scan (replace valueMark v t.text) = (Piece.scan t.text).flatMap fun piece =>
      if piece.written = valueMark.toList then v.toList.map .plain else [piece] := by
    refine (scans_scan _).unique ?_
    rw [toList_replace]
    exact (scans_scan t.text).substituted (by simp) (by simp) hmark hv hpieces
  have hown (cs : List Char) :
      (cs.map Piece.plain).mapM (Piece.fill? value) = some (cs.map fun c => [c]) := by
    induction cs with
    | nil => rfl
    | cons c cs ih => simp [Piece.fill?, ih]
  have hpiece (piece : Piece) : ((if piece.written = valueMark.toList then v.toList.map Piece.plain
      else [piece]).mapM (Piece.fill? value)).map List.flatten = t.pieceText? value piece := by
    rw [pieceText?, h]
    simp only
    split_ifs
    · simp [hown, ← List.flatMap_def]
    · cases hfill : piece.fill? value <;> simp [hfill]
  have hsame := congrArg (Option.map String.ofList)
    (map_flatten_mapM_flatMap hpiece (Piece.scan t.text))
  rw [read?, h]
  show fillPlaceholders? value (replace valueMark v t.text) = _
  rw [fillPlaceholders?, meant?, hscan]
  simpa [Option.map_map, Function.comp_def] using hsame

/-- Where no placeholder begins in the own text, it is not read again. -/
theorem Inert.readsAsMeant (h : t.Inert) {address : String} (hread : t.read? value = some address) :
    t.ReadsAsMeant value := by
  have hsame : t.read? value = t.meant? value := by
    cases hown : t.own with
    | none => exact read?_of_none hown
    | some v => exact read?_of_isInert hown (h v hown).1 (h v hown).2
  exact ⟨address, "", by rw [← hsame, hread], by rw [hread, String.append_empty], .inl rfl⟩

end Template

def bringsAddress (t : FilterStyle) (l : Located) : Bool :=
  (nonEmpty? l.2.options.filterRemoteUrl).isSome && t.isRemote l.2

/-- The last condition that brings an address along gives the address, with its own text in it. -/
theorem ownAddresses_cases {t : FilterStyle} {url : Option String} {e : String × List Located}
    {ls consumed : List Located} {address : String}
    (h : ownAddresses t url e ls = .ok (true, address, consumed)) :
    ((ls.filter (bringsAddress t)).getLast? = none ∧ address = e.1) ∨
      ∃ l own text, (ls.filter (bringsAddress t)).getLast? = some l ∧
        nonEmpty? l.2.options.filterRemoteUrl = some own ∧ l.2.addressText? = .ok text ∧
        address = replace valueMark (text.getD "") own := by
  induction ls generalizing url e with
  | nil =>
    cases h
    exact .inl ⟨rfl, rfl⟩
  | cons l ls ih =>
    by_cases hbrings : bringsAddress t l = true
    · rw [List.filter_cons_of_pos hbrings, List.getLast?_cons]
      obtain ⟨hsome, hremote⟩ := Bool.and_eq_true_iff.1 hbrings
      obtain ⟨own, hown⟩ := Option.isSome_iff_exists.1 hsome
      rw [ownAddresses, hown, hremote] at h
      simp only at h
      split at h
      · cases h
      obtain ⟨text, htext, h⟩ := Except.bind_eq_ok_iff.1 h
      have hrest : ownAddresses t (some own) (replace valueMark (text.getD "") own, e.2 ++ [l]) ls =
          .ok (true, address, consumed) := by
        cases text with
        | some text => exact h
        | none =>
          simp only at h
          split at h
          · cases h
          · exact h
      refine .inr ?_
      rcases ih hrest with ⟨hnone, haddress⟩ | ⟨l', own', text', hlast, hown', htext', haddress⟩
      · exact ⟨l, own, text, by rw [hnone]; rfl, hown, htext, haddress⟩
      · exact ⟨l', own', text', by rw [hlast]; rfl, hown', htext', haddress⟩
    · rw [List.filter_cons_of_neg hbrings]
      rw [ownAddresses] at h
      split at h
      · rename_i hown hremote
        exact absurd (by rw [bringsAddress, hown, hremote]; rfl) hbrings
      · exact ih h

namespace Plan

variable {p : Plan} {d : Dialect}

/-- The text of a condition in an address, if there is one. -/
def value (p : Plan) (name : String) : Option String :=
  match p.placeholderValue? name with
  | .ok text => text
  | .error _ => none

def template (p : Plan) (d : Dialect) : Except Error Template := do
  match (p.topLevel.filter (bringsAddress d.filterStyle)).getLast? with
  | some l => pure ⟨l.2.options.filterRemoteUrl.getD "", some ((← l.2.addressText?).getD "")⟩
  | none => pure ⟨p.addressFor (← p.itemCondition?), none⟩

/-- The addresses of a plan have no query string. -/
structure Queryless (p : Plan) : Prop where
  table : '?' ∉ p.entity.dataAddress.toList
  item : '?' ∉ (p.options.uidRequestDataAddress.getD "").toList
  own : ∀ l ∈ p.topLevel, '?' ∉ (l.2.options.filterRemoteUrl.getD "").toList

theorem fillAddress?_eq_value {address : String} {filled : Option String}
    (h : p.fillAddress? address = .ok filled) : filled = fillPlaceholders? p.value address := by
  have hvalues : ∀ name ∈ placeholders address, p.placeholderValue? name = .ok (p.value name) := by
    obtain ⟨values, hvalues, -⟩ := Except.bind_eq_ok_iff.1 h
    intro name hname
    obtain ⟨i, hi, rfl⟩ := List.getElem_of_mem hname
    obtain ⟨hlength, hget⟩ := List.forall₂_iff_get.1 (List.mapM_eq_ok_iff.1 hvalues)
    obtain ⟨text, htext, -⟩ := Except.bind_eq_ok_iff.1 (hget i hi (hlength ▸ hi))
    rw [value]
    simp only [List.get_eq_getElem] at htext
    rw [htext]
  rw [fillAddress?_eq p.value hvalues] at h
  exact (Except.ok.inj h).symm

theorem endpoint_of_item {item : Option Located} (hitem : p.itemCondition? = .ok item) :
    p.endpoint d = (do
      let (complete, address, consumed) ←
        ownAddresses d.filterStyle none (p.addressFor item, item.toList) p.topLevel
      if !complete then pure ⟨none, consumed⟩
      else
        match ← p.fillAddress? address with
        | none => pure ⟨none, consumed⟩
        | some address => pure ⟨some (← adaptAddress p.options address), consumed⟩) := by
  rw [endpoint, hitem]
  cases item <;> rfl

/-- What an endpoint consumes: the condition that names items, and those that bring an address
along, up to the first whose value is missing. -/
theorem exists_ownAddresses {e : Endpoint} (he : p.endpoint d = .ok e) :
    ∃ item complete start, p.itemCondition? = .ok item ∧
      ownAddresses d.filterStyle none (p.addressFor item, item.toList) p.topLevel =
        .ok (complete, start, e.consumed) ∧ (complete = false → e.address = none) := by
  obtain ⟨item, hitem, -⟩ := Except.bind_eq_ok_iff.1 he
  rw [endpoint_of_item hitem] at he
  obtain ⟨⟨complete, start, consumed⟩, hown, he⟩ := Except.bind_eq_ok_iff.1 he
  refine ⟨item, complete, start, hitem, ?_⟩
  cases complete with
  | false =>
    cases he
    exact ⟨hown, fun _ => rfl⟩
  | true =>
    obtain ⟨filled, -, he⟩ := Except.bind_eq_ok_iff.1 he
    cases filled with
    | none =>
      cases he
      exact ⟨hown, nofun⟩
    | some filled =>
      obtain ⟨adapted, -, he⟩ := Except.bind_eq_ok_iff.1 he
      cases he
      exact ⟨hown, nofun⟩

/-- The address of a request is that of its plan as it is read, and then adapted. -/
theorem exists_template_adapted {e : Endpoint} (he : p.endpoint d = .ok e) {address : String}
    (ha : e.address = some address) :
    ∃ t filled, p.template d = .ok t ∧ t.read? p.value = some filled ∧
      adaptAddress p.options filled = .ok address := by
  obtain ⟨item, hitem, -⟩ := Except.bind_eq_ok_iff.1 he
  rw [endpoint_of_item hitem] at he
  obtain ⟨⟨complete, start, consumed⟩, hown, he⟩ := Except.bind_eq_ok_iff.1 he
  cases complete with
  | false =>
    cases he
    cases ha
  | true =>
    obtain ⟨filled, hfilled, he⟩ := Except.bind_eq_ok_iff.1 he
    cases filled with
    | none =>
      cases he
      cases ha
    | some filled =>
      obtain ⟨adapted, hadapted, he⟩ := Except.bind_eq_ok_iff.1 he
      cases he
      cases ha
      have hfill := fillAddress?_eq_value hfilled
      rcases ownAddresses_cases hown with
        ⟨hnone, hstart⟩ | ⟨l, own, text, hlast, hurl, htext, hstart⟩
      · refine ⟨⟨p.addressFor item, none⟩, filled, ?_, ?_, hadapted⟩
        · rw [template, hnone, hitem]
          rfl
        rw [hfill, hstart, Template.read?]
      · have hurl' : l.2.options.filterRemoteUrl = some own := (Option.filter_eq_some_iff.1 hurl).1
        have htemplate : p.template d = .ok ⟨own, some (text.getD "")⟩ := by
          rw [template, hlast]
          simp only [htext, hurl']
          rfl
        exact ⟨_, filled, htemplate, by rw [hfill, hstart, Template.read?], hadapted⟩

theorem exists_template (hpattern : nonEmpty? p.options.requestUrlReplacePattern = none)
    {e : Endpoint} (he : p.endpoint d = .ok e) {address : String} (ha : e.address = some address) :
    ∃ t, p.template d = .ok t ∧ t.read? p.value = some address := by
  obtain ⟨t, filled, ht, hread, hadapted⟩ := exists_template_adapted he ha
  rw [adaptAddress, hpattern] at hadapted
  cases hadapted
  exact ⟨t, ht, hread⟩

theorem Queryless.not_mem_text (h : p.Queryless) {t : Template} (ht : p.template d = .ok t) :
    '?' ∉ t.text.toList := by
  rw [template] at ht
  split at ht
  · rename_i l hlast
    obtain ⟨text, -, ht⟩ := Except.bind_eq_ok_iff.1 ht
    cases ht
    exact h.own l (List.mem_of_mem_filter (List.mem_of_getLast? hlast))
  · obtain ⟨item, -, ht⟩ := Except.bind_eq_ok_iff.1 ht
    cases ht
    show '?' ∉ (p.addressFor item).toList
    rw [addressFor]
    split
    · exact h.item
    · exact h.table

end Plan

theorem Request.path_withParams {path : String} (h : '?' ∉ path.toList) (method : String)
    (params : Params) (headers : Headers) :
    (Request.withParams method path params headers).path = path :=
  pathOf_appendQuery h _

theorem parseQuery_eq_nil_iff {q : String} : parseQuery q = [] ↔ ∀ c ∈ q.toList, c = '&' := by
  have hchars (cs : List Char) : (∀ part ∈ splitChar '&' cs, part = []) ↔ ∀ c ∈ cs, c = '&' := by
    induction cs with
    | nil => simp [splitChar]
    | cons c cs ih =>
      obtain ⟨part, parts, hparts⟩ := List.exists_cons_of_ne_nil (splitChar_ne_nil '&' cs)
      by_cases hc : c = '&'
      · simp [splitChar, hc, ih]
      · simp [splitChar, hc, hparts]
  rw [← hchars, parseQuery, List.map_eq_nil_iff, List.filter_eq_nil_iff]
  simp [Text.split]

theorem pathOf_of_not_mem {address : String} (h : '?' ∉ address.toList) :
    pathOf address = address ∧ queryOf address = "" := by
  rw [pathOf, queryOf, cut?_of_not_mem rfl h]
  exact ⟨rfl, rfl⟩

theorem pathOf_append {path : String} (h : '?' ∉ path.toList) (query : String) :
    pathOf (path ++ "?" ++ query) = path ∧ queryOf (path ++ "?" ++ query) = query := by
  rw [pathOf, queryOf, cut?_append rfl h]
  exact ⟨rfl, rfl⟩

/-- An address is its path, and its query string behind a question mark if it has one. -/
theorem exists_eq_pathOf (address : String) :
    '?' ∉ (pathOf address).toList ∧
      (address = pathOf address ∧ queryOf address = "" ∨
        address = pathOf address ++ "?" ++ queryOf address) := by
  by_cases hmark : '?' ∈ address.toList
  · obtain ⟨path, query, hchars, hpath⟩ := List.eq_append_cons_of_mem hmark
    have hpath : '?' ∉ (String.ofList path).toList := by rwa [String.toList_ofList]
    have haddress : address = String.ofList path ++ "?" ++ String.ofList query := by
      rw [← String.toList_inj, hchars]
      simp
    obtain ⟨hfirst, hrest⟩ := pathOf_append hpath (String.ofList query)
    rw [haddress, hfirst, hrest]
    exact ⟨hpath, .inr rfl⟩
  · obtain ⟨hfirst, hrest⟩ := pathOf_of_not_mem hmark
    rw [hfirst]
    exact ⟨hmark, .inl ⟨rfl, hrest⟩⟩

theorem mem_of_mapM_eq_some {α β : Type} {f : α → Option β} {as : List α} {bs : List β}
    (h : as.mapM f = some bs) {b : β} : b ∈ bs ↔ ∃ a ∈ as, f a = some b := by
  induction as generalizing bs with
  | nil =>
    cases h
    simp
  | cons a as ih =>
    rw [List.mapM_cons] at h
    obtain ⟨first, hfirst, h⟩ := Option.bind_eq_some_iff.1 h
    obtain ⟨rest, hrest, h⟩ := Option.bind_eq_some_iff.1 h
    cases h
    rw [List.mem_cons, ih hrest, List.exists_mem_cons_iff, hfirst, Option.some_inj, eq_comm]

/-- What stands in an address comes from the address or from the texts that are put in. -/
theorem Template.not_mem_meant {t : Template} {value : String → Option String} {address : String}
    {c : Char} (hmeant : t.meant? value = some address) (hc : c ∉ t.text.toList) :
    c ∉ address.toList ↔ ∀ text, t.Puts value text → c ∉ text.toList := by
  obtain ⟨parts, hparts, rfl⟩ := Option.map_eq_some_iff.1 hmeant
  have hmem {part : List Char} := mem_of_mapM_eq_some hparts (b := part)
  rw [String.toList_ofList, List.mem_flatten]
  constructor
  · rintro hnot text ⟨name, written, hpiece, htext⟩ hin
    exact hnot ⟨text.toList, hmem.2 ⟨_, hpiece, htext⟩, hin⟩
  · rintro hall ⟨part, hpart, hin⟩
    obtain ⟨piece, hpiece, htext⟩ := hmem.1 hpart
    cases piece with
    | plain x =>
      rw [Template.pieceText?_plain, Option.some_inj] at htext
      rw [← htext, List.mem_singleton] at hin
      exact hc ((scans_scan t.text).mem_of_plain (hin ▸ hpiece))
    | placeholder name written =>
      exact hall (String.ofList part) ⟨name, written, hpiece, by rw [htext, String.toList_ofList]⟩
        (by rwa [String.toList_ofList])

/-- A request goes to the address that is meant and has no parameters but those of the plan exactly
if no text that is put in holds a question mark, and reading gives what is meant, as it does where
no placeholder begins in the text that is put in first. -/
theorem readRequest_confined_iff {p : Plan} {d : Dialect} {r : Request} (hd : d ≠ .graphql)
    (hpattern : nonEmpty? p.options.requestUrlReplacePattern = none) (hqueryless : p.Queryless)
    (h : p.readRequest? d = .ok (some r)) :
    ∃ e t params, p.endpoint d = .ok e ∧ p.template d = .ok t ∧
      p.readParams d e.consumed = .ok params ∧
      ((r.params = params ∧ t.meant? p.value = some r.path) ↔
        (∀ text, t.Puts p.value text → '?' ∉ text.toList) ∧ t.ReadsAsMeant p.value) ∧
      (t.Inert → t.ReadsAsMeant p.value) := by
  obtain ⟨-, hnone⟩ | ⟨-, -, -, hnone⟩ | ⟨e, address, params, he, haddress, hparams, hr⟩ :=
    Plan.readRequest?_cases hd h
  · cases hnone
  · cases hnone
  obtain ⟨t, ht, hread⟩ := Plan.exists_template hpattern he haddress
  obtain ⟨hpath, hsplit⟩ := exists_eq_pathOf address
  have htext := hqueryless.not_mem_text ht
  obtain rfl := Option.some.inj hr
  have hrpath := Request.path_withParams hpath "GET" (parseQuery (queryOf address) ++ params)
    d.readHeaders
  have hrparams : (Request.withParams "GET" (pathOf address)
      (parseQuery (queryOf address) ++ params) d.readHeaders).params = params ↔
        parseQuery (queryOf address) = [] := List.append_left_eq_self
  refine ⟨e, t, params, he, ht, hparams, ?_, fun hinert => hinert.readsAsMeant hread⟩
  rw [hrparams, hrpath]
  constructor
  · rintro ⟨hnoparams, hmeant⟩
    refine ⟨(Template.not_mem_meant hmeant htext).1 hpath, ?_⟩
    rcases hsplit with ⟨hall, -⟩ | hall
    · exact ⟨_, "", hmeant, by rw [hread, String.append_empty, ← hall], .inl rfl⟩
    · refine ⟨_, "?" ++ queryOf address, hmeant, ?_,
        .inr ⟨_, rfl, parseQuery_eq_nil_iff.1 hnoparams⟩⟩
      rw [hread, ← String.append_assoc, ← hall]
  · rintro ⟨htexts, path, query, hmeant, hread', hquery⟩
    have hplain := (Template.not_mem_meant hmeant htext).2 htexts
    obtain rfl : address = path ++ query := Option.some.inj (hread.symm.trans hread')
    rcases hquery with rfl | ⟨signs, rfl, hsigns⟩
    · rw [String.append_empty]
      obtain ⟨hsame, hnone⟩ := pathOf_of_not_mem hplain
      rw [hsame, hnone]
      exact ⟨parseQuery_eq_nil_iff.2 (by simp), hmeant⟩
    · obtain ⟨hsame, hsign⟩ := pathOf_append hplain signs
      rw [← String.append_assoc, hsame, hsign]
      exact ⟨parseQuery_eq_nil_iff.2 hsigns, hmeant⟩

/-- Items of a kind, which have an address of their own. -/
def kindQuery (conditions : List (String × String)) : Query :=
  let kind : Attribute :=
    { name := "kind"
      dataAddress := "kind"
      options := { filterRemoteUrl := some "kinds/[#value#]" } }
  let owner : Attribute := { name := "owner", dataAddress := "owner" }
  { entity := { name := "items", dataAddress := "items", attributes := [kind, owner] }
    filters := .mk .and (conditions.map fun c => .condition {
      target := .attribute (if c.1 = "kind" then kind else owner), value := .str c.2 }) [] }

/-- A read of items by conditions that go into the address: what is meant, and the path and the
parameters of the request. -/
structure ReadsFrom (conditions : List (String × String)) (t : Template) (meant path : String)
    (params : Params) (p : Plan) (r : Request) : Prop where
  planned : Plan.of .json (kindQuery conditions) = .ok p
  template : p.template .json = .ok t
  requested : p.readRequest? .json = .ok (some r)
  unfiltered : (p.endpoint .json >>= fun e => p.readParams .json e.consumed) = .ok []
  meant : t.meant? p.value = some meant
  path : r.path = path
  params : r.params = params

/-- A plan whose text holds signs of a query string. -/
def signedKind : Plan where
  query := kindQuery [("kind", "a&b=c")]
  remote := (kindQuery [("kind", "a&b=c")]).filters

theorem readRequest_confined_signedKind :
    ∃ r, ReadsFrom [("kind", "a&b=c")] ⟨"kinds/[#value#]", some "a&b=c"⟩ "kinds/a&b=c"
      "kinds/a&b=c" [] signedKind r := by
  have htemplate : signedKind.template .json = .ok ⟨"kinds/[#value#]", some "a&b=c"⟩ := by
    decide +kernel
  have hmeant : Template.meant? ⟨"kinds/[#value#]", some "a&b=c"⟩ signedKind.value =
      some "kinds/a&b=c" := by decide +kernel
  have hparams : (signedKind.endpoint .json >>= fun e =>
      signedKind.readParams .json e.consumed) = .ok [] := by decide +kernel
  obtain ⟨r, hr⟩ : ∃ r, signedKind.readRequest? .json = .ok (some r) :=
    ⟨{ uri := "kinds/a&b=c", queryParams := some [] }, by decide +kernel⟩
  obtain ⟨e, t, params, he, ht, hread, hconfined, hinert⟩ :=
    readRequest_confined_iff (by decide) rfl ⟨by decide, by decide, by decide⟩ hr
  rw [htemplate] at ht
  cases ht
  rw [Except.bind_of_ok _ he, hread] at hparams
  cases hparams
  have hreads := hinert (by decide +kernel)
  have htexts := (Template.not_mem_meant hmeant (c := '?') (by decide)).1 (by decide)
  obtain ⟨hnone, hpath⟩ := hconfined.2 ⟨htexts, hreads⟩
  rw [hmeant] at hpath
  exact ⟨r, rfl, htemplate, hr, by rw [Except.bind_of_ok _ he, hread], hmeant,
    (Option.some.inj hpath).symm, hnone⟩

/-- A text with a question mark gives a parameter, and one that is a placeholder gives another
value. -/
theorem readRequest_restructured :
    (∃ p r, ReadsFrom [("kind", "a?b=1")] ⟨"kinds/[#value#]", some "a?b=1"⟩ "kinds/a?b=1"
      "kinds/a" [("b", some "1")] p r) ∧
    ∃ p r, ReadsFrom [("kind", "[#owner#]"), ("owner", "s")]
      ⟨"kinds/[#value#]", some "[#owner#]"⟩ "kinds/[#owner#]" "kinds/s" [] p r := by
  constructor
  · refine ⟨_, { uri := "kinds/a?b=1", queryParams := some [("b", some "1")] },
      rfl, ?_, ?_, ?_, ?_, ?_, ?_⟩ <;> decide +kernel
  · refine ⟨_, { uri := "kinds/s", queryParams := some [] }, rfl, ?_, ?_, ?_, ?_, ?_, ?_⟩ <;>
      decide +kernel

end EntityQuery
