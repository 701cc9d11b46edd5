import EntityQuery.Proofs.PercentDecoding
import EntityQuery.Proofs.Separation
import EntityQuery.Transport.Session

/-!
# Query parameters survive the wire

The parameters of a request and the fixed ones of a session are read back from the address of the
call, in order and each with its value (`parseQuery_url`). No encoded text holds one of the
characters that part addresses, parameters or values, so each separator that reading meets is one
that writing put there (`parseQuery_join`, `parseParam_encodedParam`).
-/

namespace EntityQuery

namespace Url

open Text

theorem readable_name : Readable (· == '$') := by
  intro c h
  rw [beq_iff_eq] at h
  subst h
  decide

theorem readable_value : Readable keptInValue := by
  intro c h
  have hall : "$'(),:/@!*;".toList.all (fun c => decide (c.toNat < 0x80 ∧ c ≠ '%')) = true := by
    decide
  exact of_decide_eq_true (List.all_eq_true.1 hall c (of_decide_eq_true h))

/-- A parameter is read as it was written. -/
theorem parseParam_encodedParam (p : String × Option String) :
    parseParam (encodedParam p) = p := by
  obtain ⟨name, value⟩ := p
  have hname : '=' ∉ (encode (· == '$') name).toList :=
    not_mem_encode (by decide) (by decide) (by decide)
  cases value with
  | none =>
    rw [encodedParam, parseParam, cut?_of_not_mem rfl hname]
    simp only [decode_encode readable_name]
  | some value =>
    rw [encodedParam, parseParam, cut?_append rfl hname]
    simp only [decode_encode readable_name, decode_encode readable_value]

theorem not_mem_encodedParam (p : String × Option String) : '&' ∉ (encodedParam p).toList := by
  obtain ⟨name, value⟩ := p
  have hname : '&' ∉ (encode (· == '$') name).toList :=
    not_mem_encode (by decide) (by decide) (by decide)
  cases value with
  | none => exact hname
  | some value =>
    have hvalue : '&' ∉ (encode keptInValue value).toList :=
      not_mem_encode (by decide) (by decide) (by decide)
    rw [encodedParam, String.toList_append, String.toList_append, List.mem_append, List.mem_append]
    rintro ((h | h) | h)
    · exact hname h
    · revert h
      decide
    · exact hvalue h

theorem encodedParam_ne_empty {p : String × Option String} (h : p.1 ≠ "") :
    encodedParam p ≠ "" := by
  obtain ⟨name, value⟩ := p
  have hname : encode (· == '$') name ≠ "" := encode_ne_empty readable_name h
  cases value with
  | none => exact hname
  | some value =>
    rw [encodedParam]
    simp [String.append_eq_empty_iff]

/-- The parts of a query string are read one by one. -/
theorem parseQuery_join {parts : List String} (h : ∀ p ∈ parts, p ≠ "" ∧ '&' ∉ p.toList) :
    parseQuery (join "&" parts) = parts.map parseParam := by
  cases parts with
  | nil => rfl
  | cons p parts =>
    have hall : (p :: parts).filter (· != "") = p :: parts :=
      List.filter_eq_self.2 fun x hx => bne_iff_ne.2 (h x hx).1
    rw [parseQuery, split_join rfl (List.cons_ne_nil _ _) fun x hx => (h x hx).2, hall]

theorem parts_named (ps : Params) :
    ∀ x ∈ (named ps).map encodedParam, x ≠ "" ∧ '&' ∉ x.toList := by
  rw [List.forall_mem_map]
  intro p hp
  have hname : p.1 ≠ "" := bne_iff_ne.1 (List.mem_filter.1 hp).2
  exact ⟨encodedParam_ne_empty hname, not_mem_encodedParam p⟩

theorem parseQuery_encodedQuery (ps : Params) : parseQuery (encodedQuery ps) = named ps := by
  rw [encodedQuery, parseQuery_join (parts_named ps), List.map_map]
  exact List.map_id'' parseParam_encodedParam _

theorem named_eq_self {ps : Params} (h : ∀ p ∈ ps, p.1 ≠ "") : named ps = ps :=
  List.filter_eq_self.2 fun p hp => bne_iff_ne.2 (h p hp)

theorem named_append (ps qs : Params) : named (ps ++ qs) = named ps ++ named qs :=
  List.filter_append ..

theorem encodedQuery_eq_empty_iff {ps : Params} : encodedQuery ps = "" ↔ named ps = [] := by
  constructor
  · intro h
    rw [← parseQuery_encodedQuery, h]
    rfl
  · intro h
    rw [encodedQuery, h]
    rfl

variable {base : String}

theorem queryOf_appendQuery (h : '?' ∉ base.toList) (q : String) :
    queryOf (appendQuery base q) = q := by
  rw [appendQuery]
  split
  · rename_i hq
    rw [queryOf, cut?_of_not_mem rfl h, hq]
    rfl
  · rw [contains_of_not_mem rfl h, queryOf, if_neg Bool.false_ne_true, cut?_append rfl h]
    rfl

theorem pathOf_appendQuery (h : '?' ∉ base.toList) (q : String) :
    pathOf (appendQuery base q) = base := by
  rw [appendQuery]
  split
  · rw [pathOf, cut?_of_not_mem rfl h]
    rfl
  · rw [contains_of_not_mem rfl h, pathOf, if_neg Bool.false_ne_true, cut?_append rfl h]
    rfl

/-- Parameters added twice are the parameters of both, whichever of them are without a name. -/
theorem appendQuery_appendQuery (h : '?' ∉ base.toList) (ps qs : Params) :
    appendQuery (appendQuery base (encodedQuery ps)) (encodedQuery qs) =
      appendQuery base (encodedQuery (ps ++ qs)) := by
  by_cases hq : named qs = []
  · have hsum : encodedQuery (ps ++ qs) = encodedQuery ps := by
      rw [encodedQuery, named_append, hq, List.append_nil, encodedQuery]
    rw [hsum, appendQuery, if_pos (encodedQuery_eq_empty_iff.2 hq)]
  have hq' : encodedQuery qs ≠ "" := mt encodedQuery_eq_empty_iff.1 hq
  by_cases hp : named ps = []
  · have hsum : encodedQuery (ps ++ qs) = encodedQuery qs := by
      rw [encodedQuery, named_append, hp, List.nil_append, encodedQuery]
    rw [hsum, appendQuery.eq_1 base (encodedQuery ps), if_pos (encodedQuery_eq_empty_iff.2 hp)]
  have hp' : encodedQuery ps ≠ "" := mt encodedQuery_eq_empty_iff.1 hp
  have hsum : encodedQuery (ps ++ qs) = encodedQuery ps ++ "&" ++ encodedQuery qs := by
    rw [encodedQuery, named_append, List.map_append, join,
      String.intercalate_append_of_ne_nil (by simpa using hp) (by simpa using hq)]
    rfl
  have hsum' : encodedQuery (ps ++ qs) ≠ "" := by
    rw [ne_eq, encodedQuery_eq_empty_iff, named_append]
    exact List.append_ne_nil_of_right_ne_nil _ hq
  have hfirst : appendQuery base (encodedQuery ps) = base ++ "?" ++ encodedQuery ps := by
    rw [appendQuery, if_neg hp', contains_of_not_mem rfl h, if_neg Bool.false_ne_true]
  rw [hfirst, appendQuery, if_neg hq', contains_append rfl h, if_pos rfl, appendQuery,
    if_neg hsum', contains_of_not_mem rfl h, if_neg Bool.false_ne_true, hsum]
  simp only [String.append_assoc]

end Url

open Url

theorem Request.encodedUri_withParams {path : String} (h : '?' ∉ path.toList)
    (method : String) (params : Params) (headers : Headers) :
    (Request.withParams method path params headers).encodedUri =
      appendQuery (encode keptInPath path) (encodedQuery params) := by
  have hpath : (Request.withParams method path params headers).path = path :=
    pathOf_appendQuery h _
  rw [Request.encodedUri, hpath]
  rfl

/-- An address as it is sent holds unreserved characters and those that a path keeps, beside the
mark before its parameters. -/
theorem Request.mem_encodedUri {r : Request} {c : Char} (h : c ∈ r.encodedUri.toList) :
    isUnreserved c = true ∨ keptInPath c = true ∨ c = '?' := by
  have hencoded {keep : Char → Bool} (hkeep : ∀ c, keep c = true → keptInPath c = true)
      {s : String} (h : c ∈ (encode keep s).toList) :
      isUnreserved c = true ∨ keptInPath c = true ∨ c = '?' := by
    rcases mem_encode h with h | h | rfl
    · exact .inl h
    · exact .inr (.inl (hkeep c h))
    · exact .inr (.inl (by decide))
  have hkept : ∀ c, keptInValue c = true → keptInPath c = true := by
    have hsubset : "$'(),:/@!*;".toList ⊆ "/$'(),:=@;&+!*%".toList := by decide
    intro c h
    simp only [keptInValue, keptInPath, decide_eq_true_eq] at h ⊢
    exact hsubset h
  have hname : ∀ c, (c == '$') = true → keptInPath c = true := by
    intro c h
    rw [eq_of_beq h]
    decide
  have hparam (p : String × Option String) (h : c ∈ (encodedParam p).toList) :
      isUnreserved c = true ∨ keptInPath c = true ∨ c = '?' := by
    obtain ⟨name, _ | value⟩ := p
    · exact hencoded hname h
    · rw [encodedParam, String.toList_append, String.toList_append, List.mem_append,
        List.mem_append] at h
      rcases h with (h | h) | h
      · exact hencoded hname h
      · rw [List.mem_singleton.1 h]
        decide
      · exact hencoded hkept h
  rw [encodedUri, appendQuery] at h
  split at h
  · exact hencoded (fun _ => id) h
  rw [String.toList_append, String.toList_append, List.mem_append, List.mem_append] at h
  rcases h with (h | h) | h
  · exact hencoded (fun _ => id) h
  · split at h <;> rw [List.mem_singleton.1 h] <;> decide
  · rcases Text.mem_join h with h | ⟨text, htext, h⟩
    · rw [List.mem_singleton.1 h]
      decide
    · obtain ⟨p, -, rfl⟩ := List.mem_map.1 htext
      exact hparam p h

namespace Config

theorem mem_root_iff {c : Config} {x : Char} (hx : x ≠ '/') :
    x ∈ c.root.toList ↔ x ∈ c.baseUrl.toList := by
  have hslash : x ∉ "/".toList := fun h => hx (List.mem_singleton.1 h)
  rw [root, String.toList_append, List.mem_append, Text.mem_trimEndChar_iff hx,
    or_iff_left hslash]

/-- A session completes an address before its query string and adds the fixed parameters behind
those that are there. -/
theorem exists_url_appendQuery {c : Config} (hroot : '?' ∉ c.baseUrl.toList) {path : String}
    (hpath : '?' ∉ path.toList) (ps : Params) : ∃ base : String, '?' ∉ base.toList ∧
      c.url (appendQuery path (encodedQuery ps)) =
        appendQuery base (encodedQuery (ps ++ c.fixedParams)) := by
  by_cases habs : isAbsolute (appendQuery path (encodedQuery ps)) = true
  · exact ⟨path, hpath, by rw [url, if_pos habs, appendQuery_appendQuery hpath]⟩
  have hbase : '?' ∉ (c.root ++ Text.trimStartChar '/' path).toList := by
    rw [String.toList_append, List.mem_append, not_or]
    exact ⟨mt (mem_root_iff (by decide)).1 hroot, Text.not_mem_trimStartChar hpath⟩
  refine ⟨_, hbase, ?_⟩
  have hjoined : c.root ++ Text.trimStartChar '/' (appendQuery path (encodedQuery ps)) =
      appendQuery (c.root ++ Text.trimStartChar '/' path) (encodedQuery ps) := by
    rw [appendQuery, appendQuery]
    split
    · rfl
    · rw [Text.contains_of_not_mem rfl hpath, Text.contains_of_not_mem rfl hbase,
        if_neg Bool.false_ne_true, Text.trimStartChar_append rfl (by decide)]
      simp only [String.append_assoc]
  rw [url, if_neg habs, hjoined, appendQuery_appendQuery hbase]

end Config

/-- The query string of a call holds the parameters of the request in order and then the fixed
ones, each that has a name, and nothing else; reading a written query string gives its
parameters. -/
theorem parseQuery_url (c : Config) (hroot : '?' ∉ c.baseUrl.toList) (method path : String)
    (hpath : '?' ∉ path.toList) (params : Params) (headers : Headers) :
    parseQuery (queryOf (c.url (Request.withParams method path params headers).encodedUri)) =
        named params ++ named c.fixedParams ∧
      ∀ ps : Params, (∀ p ∈ ps, p.1 ≠ "") → parseQuery (encodedQuery ps) = ps := by
  have hencoded : '?' ∉ (encode keptInPath path).toList :=
    not_mem_encode (by decide) (by decide) (by decide)
  constructor
  · obtain ⟨base, hbase, hurl⟩ := Config.exists_url_appendQuery hroot hencoded params
    rw [Request.encodedUri_withParams hpath, hurl, queryOf_appendQuery hbase,
      parseQuery_encodedQuery, named_append]
  · intro ps hps
    rw [parseQuery_encodedQuery, named_eq_self hps]

/-- A session whose parameters hold separators, escapes and characters of several bytes. -/
def clientConfig : Config where
  baseUrl := "https://service.example.com/v1//"
  fixedParams := [("sap-client", some "100&x=1"), ("", some "lost"), ("日本", none)]

theorem parseQuery_url_clientConfig :
    parseQuery (queryOf (clientConfig.url (Request.withParams "GET" "/Orders('a%20b')"
      [("$filter", some "Name eq 'R&D #1' + 50%"), ("", none), ("a=b?", some ""), ("é", none)]
      []).encodedUri)) =
        [("$filter", some "Name eq 'R&D #1' + 50%"), ("a=b?", some ""), ("é", none),
          ("sap-client", some "100&x=1"), ("日本", none)] :=
  (parseQuery_url clientConfig (by decide) "GET" "/Orders('a%20b')" (by decide) _ []).1

end EntityQuery
