import EntityQuery.Proofs.EndpointValue
import EntityQuery.Proofs.LiteralReading
import EntityQuery.Proofs.PathEscapes
import EntityQuery.Proofs.UpdateAddress

/-!
# Which address a write reaches

A write goes to the address of its collection with the literal of the identifier in parentheses. The
address is put together as it is read, and taken apart again when it is sent: what follows a
question mark becomes parameters, and a percent sign with two digits is taken for an escape. So the
service reads the address that was meant exactly if the literal holds neither
(`Request.reaches_iff`), and quotes that are doubled neither make nor break an escape
(`hasEscape_escapeLiteral`).
-/

namespace EntityQuery

open Text Url

/-- A service that reads a request finds no parameters, and the given address for the path. -/
def Request.Reaches (r : Request) (address : String) : Prop :=
  '?' ∉ r.encodedUri.toList ∧ decode r.encodedUri = address

namespace Request

variable {r : Request}

theorem encodedUri_of_not_mem (hq : r.queryParams = none) (h : '?' ∉ r.uri.toList) :
    r.encodedUri = encode keptInPath r.uri := by
  obtain ⟨hpath, hquery⟩ := pathOf_of_not_mem h
  rw [encodedUri, path, params, query, hpath, hquery, hq]
  rfl

/-- Behind a question mark there is nothing that a path could hold. -/
theorem not_reaches_of_mem (h : '?' ∈ r.uri.toList) : ¬r.Reaches r.uri := by
  rintro ⟨hplain, hdecode⟩
  have hpath : '?' ∉ (encode keptInPath r.path).toList :=
    not_mem_encode (by decide) (by decide) (by decide)
  by_cases hnone : encodedQuery r.params = ""
  · rw [encodedUri, appendQuery, if_pos hnone, decode_encode_path] at hdecode
    obtain ⟨hmark, hsplit⟩ := exists_eq_pathOf r.uri
    have hlt : r.path.length < r.uri.length := by
      rcases hsplit with ⟨heq, -⟩ | heq
      · exact absurd (heq ▸ h) hmark
      · have hlen := congrArg String.length heq
        rw [String.length_append, String.length_append] at hlen
        have hone : "?".length = 1 := rfl
        rw [path]
        omega
    have hle := (length_decodeChars [] r.path.toList).1
    have hlen := congrArg String.length hdecode
    rw [decode, String.length_ofList] at hlen
    rw [List.length_nil, String.length_toList] at hle
    omega
  · rw [encodedUri, appendQuery, if_neg hnone, contains_of_not_mem rfl hpath] at hplain
    simp at hplain

/-- A request reaches its own address exactly if reading the address again leaves it as it is. -/
theorem reaches_iff (hq : r.queryParams = none) :
    r.Reaches r.uri ↔ '?' ∉ r.uri.toList ∧ hasEscape r.uri.toList = false := by
  by_cases h : '?' ∈ r.uri.toList
  · simp [h, not_reaches_of_mem h]
  · have hplain : '?' ∉ (encode keptInPath r.uri).toList :=
      not_mem_encode (by decide) (by decide) (by decide)
    rw [Reaches, encodedUri_of_not_mem hq h, decode_encode_path, decode_eq_self_iff]
    simp [h, hplain]

end Request

section Quotes

variable {x : Char} {sep : List Char}

/-- A separator that no escape goes across parts the escapes of a text. -/
theorem hasEscape_intercalate (hx : hexDigit? x = none) (hsep : '%' ∉ x :: sep)
    (ps : List (List Char)) : hasEscape ((x :: sep).intercalate ps) = ps.any hasEscape := by
  rw [List.mem_cons, not_or] at hsep
  induction ps with
  | nil => rfl
  | cons p ps ih =>
    rcases ps with _ | ⟨p', ps⟩
    · simp
    · rw [List.intercalate_cons_cons, List.append_assoc, List.cons_append,
        hasEscape_append_of_none _ hx (Ne.symm hsep.1), hasEscape_append hsep.2, ih]
      rfl

theorem mem_intercalate_iff {c : Char} (hc : c ∉ sep) (ps : List (List Char)) :
    c ∈ sep.intercalate ps ↔ ∃ p ∈ ps, c ∈ p := by
  induction ps with
  | nil => simp
  | cons p ps ih =>
    rcases ps with _ | ⟨p', ps⟩
    · simp
    · rw [List.intercalate_cons_cons, List.append_assoc, List.mem_append, List.mem_append, ih]
      simp [hc]

theorem hasEscape_escapeLiteral (s : String) :
    hasEscape (escapeLiteral s).toList = hasEscape s.toList := by
  have hs := intercalate_pieces ['\''] s.toList
  rw [escapeLiteral, toList_replace, substituted]
  conv_rhs => rw [← hs]
  rw [show "'".toList = ['\''] from rfl, show "''".toList = ['\'', '\''] from rfl,
    hasEscape_intercalate (by decide) (by decide), hasEscape_intercalate (by decide) (by decide)]

theorem mem_escapeLiteral_iff {c : Char} (hc : c ≠ '\'') (s : String) :
    c ∈ (escapeLiteral s).toList ↔ c ∈ s.toList := by
  have hs := intercalate_pieces ['\''] s.toList
  rw [escapeLiteral, toList_replace, substituted]
  conv_rhs => rw [← hs]
  rw [show "'".toList = ['\''] from rfl, show "''".toList = ['\'', '\''] from rfl,
    mem_intercalate_iff (by simp [hc]), mem_intercalate_iff (by simp [hc])]

end Quotes

/-- Sending a text as a part of an address and reading the address again leaves the text as it
is. -/
def SafeInAddress (s : String) : Prop := '?' ∉ s.toList ∧ hasEscape s.toList = false

instance (s : String) : Decidable (SafeInAddress s) :=
  inferInstanceAs (Decidable (_ ∧ _))

theorem safeInAddress_quotedLiteral (s : String) :
    SafeInAddress (quotedLiteral s) ↔ SafeInAddress s := by
  have hlist : (quotedLiteral s).toList = '\'' :: ((escapeLiteral s).toList ++ ['\'']) := by
    simp [quotedLiteral]
  rw [SafeInAddress, SafeInAddress, hlist, hasEscape_cons (by decide),
    hasEscape_append_of_none _ (by decide) (by decide), hasEscape_escapeLiteral]
  simp [mem_escapeLiteral_iff, hasEscape]

/-- The address of one item of a collection. -/
def Entity.itemAddress (e : Entity) (literal : String) : String :=
  e.dataAddress ++ "(" ++ literal ++ ")"

/-- The address that an operation has instead of the one of the item. -/
def Entity.writeTemplate (e : Entity) : Operation → Option String
  | .create => e.options.createRequestDataAddress
  | .update => e.options.updateRequestDataAddress
  | .delete => e.options.deleteRequestDataAddress

/-- Where a collection has no question mark and no percent sign, it is the literal that counts. -/
theorem Entity.safeInAddress_itemAddress {e : Entity} (hmark : '?' ∉ e.dataAddress.toList)
    (hpercent : '%' ∉ e.dataAddress.toList) (literal : String) :
    SafeInAddress (e.itemAddress literal) ↔ SafeInAddress literal := by
  have hlist : (e.itemAddress literal).toList =
      e.dataAddress.toList ++ '(' :: (literal.toList ++ [')']) := by
    simp [itemAddress]
  rw [SafeInAddress, SafeInAddress, hlist, hasEscape_append hpercent, hasEscape_cons (by decide),
    hasEscape_append_of_none _ (by decide) (by decide)]
  simp [hmark, hasEscape]

theorem Codec.hint_of_isTextual (c : Codec) {type : DataType} (h : type.isTextual = true) :
    c.hint type none = .string := by
  cases type <;> cases h <;> cases c <;> rfl

/-- The literal of a text between quotes. -/
theorem Codec.encode_str {c : Codec} {type : DataType} {declared : Option String}
    (hc : c ≠ .plain) (h : c.hint type declared = .string) (s : String) :
    c.encode (.value (.str s)) type declared = .ok (quotedLiteral s) := by
  cases c with
  | plain => exact absurd rfl hc
  | odata2 | odata4 =>
    unfold encode odataLiteral
    simp only [h]
    rfl

theorem Dialect.codec_ne_plain {d : Dialect} (h : d.usesKeyPredicates = true) :
    d.codec ≠ .plain := by
  cases d <;> cases h <;> decide

namespace Query

variable {q : Query} {d : Dialect} {o : Operation} {u : Value}

/-- The identifiers of the items that are written to, one for each request. -/
def targets (q : Query) : Operation → Except Error (List Value)
  | .create => .ok []
  | .update => do
    let uids ← q.uidValues
    pure (q.rows.zipIdx.map fun (row, i) => q.rowUid uids i row)
  | .delete => q.uidValues

theorem queryParams_of_updateRequests {requests : List Request}
    (h : q.updateRequests d = .ok requests) : ∀ r ∈ requests, r.queryParams = none := by
  obtain ⟨uids, -, h⟩ := Except.bind_eq_ok_iff.1 h
  obtain ⟨written, -, h⟩ := Except.bind_eq_ok_iff.1 h
  obtain ⟨hlength, hget⟩ := List.forall₂_iff_get.1 (List.mapM_eq_ok_iff.1 h)
  intro r hr
  obtain ⟨i, hi, rfl⟩ := List.getElem_of_mem hr
  have hstep := hget i (hlength ▸ hi) hi
  obtain ⟨uri, -, hstep⟩ := Except.bind_eq_ok_iff.1 hstep
  obtain ⟨body, -, hstep⟩ := Except.bind_eq_ok_iff.1 hstep
  obtain ⟨wrapped, -, hstep⟩ := Except.bind_eq_ok_iff.1 hstep
  rw [show requests[i] = _ from (Except.ok.inj hstep).symm]
  rfl

/-- Updates and deletions go to the addresses of their items. -/
theorem exists_targets (ho : o ≠ .create) (hd : d.usesKeyPredicates = true)
    {requests : List Request} (h : q.writeRequests d o = .ok requests) :
    ∃ uids, q.targets o = .ok uids ∧
      List.Forall₂ (fun u r => (∃ row,
        itemUri d q.entity u row (q.entity.writeTemplate o) = .ok r.uri) ∧ r.queryParams = none)
        uids requests := by
  have hgraphql : d ≠ .graphql := by
    rintro rfl
    cases hd
  cases o with
  | create => exact absurd rfl ho
  | update =>
    have h : q.updateRequests d = .ok requests := by
      cases d <;> first | exact h | exact absurd rfl hgraphql
    obtain ⟨uids, huids, hlength, hrows⟩ := itemUri_of_updateRequests h
    have hparams := queryParams_of_updateRequests h
    refine ⟨_, by rw [targets, huids]; rfl, List.forall₂_iff_get.2 ⟨by simp [hlength], ?_⟩⟩
    intro i hi hi'
    have hrow : i < q.rows.length := hlength ▸ hi'
    refine ⟨⟨q.rows[i], ?_⟩, hparams _ (List.getElem_mem hi')⟩
    simpa [Entity.writeTemplate] using
      hrows i _ _ (List.getElem?_eq_getElem hrow) (List.getElem?_eq_getElem hi')
  | delete =>
    have h : q.deleteRequests d = .ok requests := by
      cases d <;> first | exact h | exact absurd rfl hgraphql
    obtain ⟨uids, huids, h⟩ := Except.bind_eq_ok_iff.1 h
    refine ⟨uids, huids, (List.mapM_eq_ok_iff.1 h).imp fun u r hr => ?_⟩
    obtain ⟨uri, huri, hr⟩ := Except.bind_eq_ok_iff.1 hr
    cases hr
    exact ⟨⟨_, huri⟩, rfl⟩

/-- The address of an item whose identifier is the key. -/
theorem exists_literal {a : Attribute} {row : Row} {template : Option String} {uri : String}
    (hd : d.usesKeyPredicates = true) (ha : q.entity.uidAttribute? = some a)
    (ht : nonEmpty? template = none) (h : itemUri d q.entity u row template = .ok uri) :
    ∃ literal, d.codec.encode (.value u) a.dataType a.options.odataType = .ok literal ∧
      uri = q.entity.itemAddress literal := by
  unfold itemUri at h
  rw [ht] at h
  simp only [hd, ha] at h
  split_ifs at h
  obtain ⟨literal, hliteral, h⟩ := Except.bind_eq_ok_iff.1 h
  cases h
  exact ⟨literal, Except.mapError_eq_ok_iff.1 hliteral, rfl⟩

end Query

/-- Each update and each deletion has the address of its item, with the literal of the identifier.
The service reads that address, and no parameters, exactly if the literal holds neither a question
mark nor an escape; for a plain text that is the text itself. -/
theorem write_reaches_iff {q : Query} {d : Dialect} {o : Operation} {a : Attribute}
    {requests : List Request} (ho : o ≠ .create) (hd : d.usesKeyPredicates = true)
    (ha : q.entity.uidAttribute? = some a)
    (htemplate : nonEmpty? (q.entity.writeTemplate o) = none)
    (hmark : '?' ∉ q.entity.dataAddress.toList) (hpercent : '%' ∉ q.entity.dataAddress.toList)
    (h : q.writeRequests d o = .ok requests) :
    ∃ uids, q.targets o = .ok uids ∧
      List.Forall₂ (fun u r => ∃ literal,
        d.codec.encode (.value u) a.dataType a.options.odataType = .ok literal ∧
        (r.Reaches (q.entity.itemAddress literal) ↔ SafeInAddress literal) ∧
        ∀ s, u = .str s → d.codec.hint a.dataType a.options.odataType = .string →
          (r.Reaches (q.entity.itemAddress literal) ↔ SafeInAddress s)) uids requests := by
  obtain ⟨uids, huids, hrequests⟩ := Query.exists_targets ho hd h
  refine ⟨uids, huids, hrequests.imp ?_⟩
  rintro u r ⟨⟨row, huri⟩, hparams⟩
  obtain ⟨literal, hliteral, hr⟩ := Query.exists_literal hd ha htemplate huri
  have hreaches : r.Reaches (q.entity.itemAddress literal) ↔ SafeInAddress literal := by
    rw [← Entity.safeInAddress_itemAddress hmark hpercent, ← hr]
    exact Request.reaches_iff hparams
  refine ⟨literal, hliteral, hreaches, ?_⟩
  rintro s rfl hhint
  rw [Codec.encode_str (Dialect.codec_ne_plain hd) hhint] at hliteral
  cases hliteral
  rw [hreaches, safeInAddress_quotedLiteral]

/-- Orders whose identifiers are texts. -/
def namedOrders : Entity where
  name := "Order"
  dataAddress := "Orders"
  uidName := some "ID"
  attributes :=
    [{ name := "ID", dataAddress := "ID" }, { name := "Status", dataAddress := "Status" }]

/-- An order that is closed, or deleted. -/
def namedOrder (uid : String) : Query where
  entity := namedOrders
  rows := [[("ID", .str uid), ("Status", .str "closed")]]

theorem write_reaches_namedOrder :
    (∃ r, (namedOrder "50% #1/ü&b").writeRequests .odata4 .update = .ok [r] ∧
      r.Reaches "Orders('50% #1/ü&b')") ∧
    ∃ r, (namedOrder "O'Hara").writeRequests .odata2 .delete = .ok [r] ∧
      r.Reaches "Orders('O''Hara')" := by
  have hreaches {uid address : String} {d : Dialect} {o : Operation} {r : Request}
      (ho : o ≠ .create) (hd : d.usesKeyPredicates = true)
      (hr : (namedOrder uid).writeRequests d o = .ok [r])
      (hu : (namedOrder uid).targets o = .ok [.str uid]) (hsafe : SafeInAddress uid)
      (haddress : (namedOrder uid).entity.itemAddress (quotedLiteral uid) = address) :
      r.Reaches address := by
    have hhint : d.codec.hint .string none = .string := d.codec.hint_of_isTextual rfl
    obtain ⟨uids, huids, hall⟩ := write_reaches_iff ho hd
      (show namedOrders.uidAttribute? = some { name := "ID", dataAddress := "ID" } by
        decide +kernel)
      (by cases o <;> rfl) (show '?' ∉ "Orders".toList by decide)
      (show '%' ∉ "Orders".toList by decide) hr
    cases hu.symm.trans huids
    obtain ⟨⟨literal, hliteral, -, htext⟩, -⟩ := List.forall₂_cons.1 hall
    rw [Codec.encode_str (Dialect.codec_ne_plain hd) hhint] at hliteral
    cases hliteral
    rw [← haddress]
    exact (htext uid rfl hhint).2 hsafe
  constructor
  · refine ⟨jsonRequest "PATCH" "Orders('50% #1/ü&b')" (.map [("Status", .str "closed")]), ?_⟩
    have hr : (namedOrder "50% #1/ü&b").writeRequests .odata4 .update =
        .ok [jsonRequest "PATCH" "Orders('50% #1/ü&b')" (.map [("Status", .str "closed")])] := by
      decide +kernel
    exact ⟨hr, hreaches (by decide) rfl hr (by decide +kernel) (by decide) (by decide +kernel)⟩
  · refine ⟨{ method := "DELETE", uri := "Orders('O''Hara')"
              headers := [("Accept", "application/json")] }, ?_⟩
    have hr : (namedOrder "O'Hara").writeRequests .odata2 .delete =
        .ok [{ method := "DELETE", uri := "Orders('O''Hara')"
               headers := [("Accept", "application/json")] }] := by
      decide +kernel
    exact ⟨hr, hreaches (by decide) rfl hr (by decide +kernel) (by decide) (by decide +kernel)⟩

/-- What follows a question mark in an identifier is lost, and an escape is read as a blank. -/
theorem write_astray :
    (∃ r, (namedOrder "a?b").writeRequests .odata2 .delete = .ok [r] ∧
      Codec.odata2.encode (.value (.str "a?b")) .string none = .ok "'a?b'" ∧
      r.encodedUri = "Orders('a?b%27%29" ∧ ¬r.Reaches "Orders('a?b')") ∧
    ∃ r, (namedOrder "a%20b").writeRequests .odata2 .delete = .ok [r] ∧
      Codec.odata2.encode (.value (.str "a%20b")) .string none = .ok "'a%20b'" ∧
      r.encodedUri = "Orders('a%20b')" ∧ decode r.encodedUri = "Orders('a b')" ∧
      ¬r.Reaches "Orders('a%20b')" := by
  constructor
  · refine ⟨{ method := "DELETE", uri := "Orders('a?b')"
              headers := [("Accept", "application/json")] },
      by decide +kernel, by decide +kernel, by decide +kernel, fun h => absurd h.1 ?_⟩
    decide +kernel
  · refine ⟨{ method := "DELETE", uri := "Orders('a%20b')"
              headers := [("Accept", "application/json")] },
      by decide +kernel, by decide +kernel, by decide +kernel, by decide +kernel,
      fun h => absurd h.2 ?_⟩
    decide +kernel

end EntityQuery
