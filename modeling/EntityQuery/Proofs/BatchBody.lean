import EntityQuery.Proofs.UnbrokenText

/-!
# A batch frames its requests

The body of a batch is one part under the boundary of the batch, and that part is a changeset with
one part for each request (`request_framed`). A body may hold blank lines or any other text, since
the head of a part ends at the first blank line and no line before it is blank: what a request puts
there breaks no line, be it the method in capitals, the encoded address or the host. The delimiters
show up between the parts only: where the text around the requests comes near to one, the word
before the underscore differs.
-/

namespace EntityQuery.Batch

open Text

/-- The lines of headers, one for each, and one for the content type where none of them says it. -/
def headerLines (headers : Headers) : List String :=
  headers.map (fun h => h.1 ++ ": " ++ h.2) ++
    if "Content-Type" ∈ headers.map Prod.fst then [] else ["Content-Type: application/json"]

/-- The lines of a request up to its body. -/
def headLines (s : Service) (r : Request) : List String :=
  [upper r.method ++ " " ++ (s.basePath ++ trimStartChar '/' r.encodedUri) ++ " HTTP/1.1",
    "Host: " ++ s.host] ++ headerLines r.headers ++
  if r.body.getD "" = "" then []
  else ["Content-Length: " ++ Number.natText (r.body.getD "").utf8ByteSize]

/-- A request as it stands in its part. -/
def requestText (s : Service) (r : Request) : String :=
  join lineEnd (headLines s r) ++ lineEnd ++ lineEnd ++ r.body.getD ""

/-- The lines that say what a part holds. -/
def mimeLines (contentId : Nat) : List String :=
  ["Content-Type: application/http", "Content-Transfer-Encoding: binary",
    "Content-ID: " ++ Number.natText contentId]

theorem byteLength_eq (s : String) : byteLength s = s.utf8ByteSize := by
  obtain ⟨cs, rfl⟩ : ∃ cs, s = String.ofList cs := ⟨s.toList, s.ofList_toList.symm⟩
  rw [byteLength, String.toList_ofList]
  show _ = (List.utf8Encode cs).size
  simp [utf8, List.utf8Encode]

theorem map_withDefault (headers : Headers) :
    (withDefault headers "Content-Type" "application/json").map (fun h => h.1 ++ ": " ++ h.2) =
      headerLines headers := by
  have hnamed : (headers.any (·.1 == "Content-Type")) = true ↔
      "Content-Type" ∈ headers.map Prod.fst := by
    simp [List.mem_map]
  rw [withDefault, headerLines]
  by_cases h : "Content-Type" ∈ headers.map Prod.fst
  · rw [if_pos (hnamed.2 h), if_pos h, List.append_nil]
  · rw [if_neg (fun hany => h (hnamed.1 hany)), if_neg h, List.map_append]
    rfl

theorem join_append {sep : String} {ls ms : List String} (hls : ls ≠ []) (hms : ms ≠ []) :
    join sep (ls ++ ms) = join sep ls ++ sep ++ join sep ms := by
  induction ls with
  | nil => exact absurd rfl hls
  | cons l ls ih =>
    cases ls with
    | nil =>
      rw [List.singleton_append, join, String.intercalate_cons_of_ne_nil hms, join,
        String.intercalate_singleton, join]
    | cons q ls =>
      have hrest := ih (List.cons_ne_nil _ _)
      rw [List.cons_append, join, String.intercalate_cons_of_ne_nil (by simp), ← join, hrest, join,
        join, join, String.intercalate_cons_cons]
      simp only [String.append_assoc]

theorem join_partLines (s : Service) (contentId : Nat) (r : Request) :
    join lineEnd (partLines s contentId r) =
      join lineEnd (mimeLines contentId) ++ lineEnd ++ lineEnd ++ requestText s r := by
  have hlines : partLines s contentId r =
      mimeLines contentId ++ ([""] ++ (headLines s r ++ ["", r.body.getD ""])) := by
    simp [partLines, mimeLines, headLines, map_withDefault, Service.absolutePath, byteLength_eq]
  have hblank (t : String) : join lineEnd ["", t] = lineEnd ++ t := by
    simp [join]
  rw [hlines, join_append (by simp [mimeLines]) (by simp), join_append (by simp) (by simp),
    join_append (by simp [headLines]) (by simp), hblank, requestText]
  simp [join, String.append_assoc]

/-- A request whose method and headers break no line. -/
structure OnLines (r : Request) : Prop where
  method : Unbroken r.method
  headers : ∀ h ∈ r.headers, Unbroken h.1 ∧ Unbroken h.2

theorem isLine_mimeLines (contentId : Nat) : ∀ l ∈ mimeLines contentId, IsLine l := by
  simp only [mimeLines, List.forall_mem_cons, List.not_mem_nil, false_imp_iff, implies_true,
    and_true]
  refine ⟨⟨by decide, by decide⟩, ⟨by decide, by decide⟩, ⟨by simp, ?_⟩⟩
  exact Unbroken.append (by decide) (unbroken_natText _)

theorem isLine_headerLines {r : Request} (hr : OnLines r) :
    ∀ l ∈ headerLines r.headers, IsLine l := by
  intro l hl
  rcases List.mem_append.1 hl with hl | hl
  · obtain ⟨h, hh, rfl⟩ := List.mem_map.1 hl
    obtain ⟨hname, hvalue⟩ := hr.headers h hh
    exact ⟨by simp, (hname.append (by decide)).append hvalue⟩
  · split at hl
    · cases hl
    · rw [List.mem_singleton.1 hl]
      exact ⟨by decide, by decide⟩

theorem isLine_headLines {baseUrl : String} {s : Service} (hs : Service.ofUrl baseUrl = .ok s)
    {r : Request} (hr : OnLines r) : ∀ l ∈ headLines s r, IsLine l := by
  obtain ⟨hhost, hbase⟩ := unbroken_service hs
  have hpath : Unbroken (trimStartChar '/' r.encodedUri) := by
    refine (unbroken_encodedUri r).of_subset ?_
    rw [trimStartChar, String.toList_ofList]
    exact (List.dropWhile_sublist _).subset
  have hspace : Unbroken " " := by decide
  intro l hl
  simp only [headLines, List.mem_append, List.mem_cons, List.not_mem_nil, or_false] at hl
  rcases hl with ((rfl | rfl) | hl) | hl
  · exact ⟨by simp, (((unbroken_upper hr.method).append hspace).append (hbase.append hpath)).append
      (by decide)⟩
  · exact ⟨by simp, Unbroken.append (by decide) hhost⟩
  · exact isLine_headerLines hr l hl
  · split at hl
    · cases hl
    · rw [List.mem_singleton.1 hl]
      exact ⟨by simp, Unbroken.append (by decide) (unbroken_natText _)⟩

/-- The head of the part that holds the changeset. -/
def changesetLine (changeset : String) : String :=
  "Content-Type: multipart/mixed; boundary=" ++ changeset

theorem join_framed {boundary : String} {parts : List String} (hne : parts ≠ []) :
    join lineEnd (parts.map fun p => "--" ++ boundary ++ lineEnd ++ p) ++ lineEnd ++
      "--" ++ boundary ++ "--" ++ lineEnd = frame boundary parts := by
  induction parts with
  | nil => exact absurd rfl hne
  | cons p parts ih =>
    cases parts with
    | nil => simp [join, frame, delimiter, String.append_assoc]
    | cons q parts =>
      rw [frame, ← ih (List.cons_ne_nil _ _), List.map_cons, List.map_cons, join,
        String.intercalate_cons_cons, ← List.map_cons, ← join]
      simp only [delimiter, String.append_assoc]

/-- The body of a batch is one framed part, which holds the framed parts of the changeset. -/
theorem body_eq_frame {boundary changeset : String} {parts : List String} (hne : parts ≠ []) :
    body boundary changeset parts =
      frame boundary [join lineEnd [changesetLine changeset] ++ lineEnd ++ lineEnd ++
        frame changeset parts] := by
  have hjoin (first head inner close last : String) :
      join lineEnd [first, head, "", inner, close, "", last, ""] =
        first ++ lineEnd ++
          (head ++ lineEnd ++ lineEnd ++ (inner ++ lineEnd ++ close ++ lineEnd)) ++
          lineEnd ++ last ++ lineEnd := by
    simp [join, String.append_assoc]
  have hbody : body boundary changeset parts = _ :=
    hjoin ("--" ++ boundary) (changesetLine changeset) _ ("--" ++ changeset ++ "--")
      ("--" ++ boundary ++ "--")
  have hsingle : join lineEnd [changesetLine changeset] = changesetLine changeset :=
    String.intercalate_singleton
  rw [frame, frame, ← join_framed hne, hsingle, hbody]
  simp only [delimiter, String.append_assoc]

/-- A name that can be told from the word before it in a boundary. -/
structure IsName (s : String) : Prop where
  unbroken : Unbroken s
  not_mem : '_' ∉ s.toList

/-- The writes that a batch can frame under two generated names: no read is among them, no method
or header breaks a line, and no request holds a delimiter. -/
structure Framable (s : Service) (batchName changesetName : String) (rs : List Request) : Prop where
  ne_nil : rs ≠ []
  writes : ∀ r ∈ rs, upper r.method ≠ "GET"
  onLines : ∀ r ∈ rs, OnLines r
  named : IsName batchName ∧ IsName changesetName
  absent : ∀ r ∈ rs, ∀ boundary ∈ ["batch_" ++ batchName, "changeset_" ++ changesetName],
    ¬(delimiter boundary).toList <:+: (requestText s r).toList

theorem not_mem_mimeLines (contentId : Nat) :
    '_' ∉ (join lineEnd (mimeLines contentId)).toList := by
  have hid : '_' ∉ (Number.natText contentId).toList :=
    fun h => absurd (Number.isDigit_of_mem_natText h) (by decide)
  simpa [join, mimeLines, lineEnd] using hid

theorem infix_part {s : Service} {contentId : Nat} {r : Request} {boundary : String}
    (hb : IsLine boundary) (hmark : '_' ∈ boundary.toList)
    (h : (delimiter boundary).toList <:+: (join lineEnd (partLines s contentId r)).toList) :
    (delimiter boundary).toList <:+: (requestText s r).toList := by
  obtain ⟨hreturn, hfeed⟩ := not_mem_delimiter hb
  rw [join_partLines] at h
  refine (infix_headed hreturn hfeed h).resolve_left fun h => ?_
  exact not_mem_mimeLines contentId (h.subset (by simp [delimiter, hmark]))

theorem not_infix_of_changeset (batchName : String) {lead rest text : List Char}
    (htext : text = lead ++ "changeset".toList ++ '_' :: rest) (hlead : '_' ∉ lead)
    (hrest : '_' ∉ rest) : ¬(delimiter ("batch_" ++ batchName)).toList <:+: text := by
  subst htext
  intro h
  have hmark : '_' ∉ lead ++ "changeset".toList := by simpa using hlead
  have hends : "--batch".toList <:+ lead ++ "changeset".toList := by
    apply suffix_of_infix hmark hrest
    simpa [delimiter] using h
  obtain ⟨before, hbefore⟩ := hends
  have hlast := congrArg List.getLast? hbefore
  rw [List.getLast?_append, List.getLast?_append] at hlast
  exact absurd (show some 'h' = some 't' from hlast) (by decide)

/-- The parts of a changeset, numbered from one. -/
def changesetParts (s : Service) (rs : List Request) : List String :=
  rs.zipIdx.map fun e => join lineEnd (partLines s (e.2 + 1) e.1)

section Requests

variable {s : Service} {entries : List (Request × Nat)}

theorem mapM_part (h : ∀ e ∈ entries, upper e.1.method ≠ "GET") :
    (entries.mapM fun (r, i) => part s (i + 1) r) =
      .ok (entries.map fun e => join lineEnd (partLines s (e.2 + 1) e.1)) := by
  rw [List.mapM_eq_ok_iff, List.forall₂_map_right_iff, List.forall₂_same]
  exact fun e he => if_neg (h e he)

theorem mapM_part_of_read (h : ∃ e ∈ entries, upper e.1.method = "GET") :
    (entries.mapM fun (r, i) => part s (i + 1) r) = .error .readInChangeset := by
  induction entries with
  | nil => exact absurd h (by simp)
  | cons e entries ih =>
    rw [List.mapM_cons]
    by_cases he : upper e.1.method = "GET"
    · have hpart : part s (e.2 + 1) e.1 = .error .readInChangeset := if_pos he
      show (part s (e.2 + 1) e.1 >>= _) = _
      rw [hpart]
      rfl
    · have hpart : part s (e.2 + 1) e.1 = .ok (join lineEnd (partLines s (e.2 + 1) e.1)) :=
        if_neg he
      show (part s (e.2 + 1) e.1 >>= _) = _
      rw [Except.bind_of_ok _ hpart, ih (by simpa [he] using h)]
      rfl

end Requests

/-- A part that holds a request: its own head, a blank line, the head of the request, a blank line
and the body. -/
def Holds (s : Service) (part : String) (contentId : Nat) (r : Request) : Prop :=
  ∃ text, headed? part = some (mimeLines contentId, text) ∧
    headed? text = some (headLines s r, r.body.getD "")

theorem holds_partLines {baseUrl : String} {s : Service} (hs : Service.ofUrl baseUrl = .ok s)
    {r : Request} (hr : OnLines r) (contentId : Nat) :
    Holds s (join lineEnd (partLines s contentId r)) contentId r := by
  refine ⟨requestText s r, ?_, ?_⟩
  · rw [join_partLines, headed?_join (by simp [mimeLines]) (isLine_mimeLines contentId)]
  · rw [requestText, headed?_join (by simp [headLines]) (isLine_headLines hs hr)]

theorem request_of_writes {s : Service} {batchName changesetName : String} {rs : List Request}
    (hne : rs ≠ []) (h : ∀ r ∈ rs, upper r.method ≠ "GET") :
    request s batchName changesetName rs = .ok {
      method := "POST"
      uri := "$batch"
      headers := [("Content-Type", "multipart/mixed; boundary=" ++ ("batch_" ++ batchName)),
        ("Accept", "multipart/mixed")]
      body := some (body ("batch_" ++ batchName) ("changeset_" ++ changesetName)
        (changesetParts s rs)) } := by
  have hparts := @mapM_part s rs.zipIdx fun e he =>
    h e.1 (List.fst_mem_of_mem_zipIdx he)
  obtain ⟨r, rs, rfl⟩ := List.exists_cons_of_ne_nil hne
  show (((r :: rs).zipIdx.mapM fun (r, i) => part s (i + 1) r) >>= _) = _
  rw [Except.bind_of_ok _ hparts]
  rfl

theorem request_of_read {s : Service} {batchName changesetName : String} {rs : List Request}
    (h : ∃ r ∈ rs, upper r.method = "GET") :
    request s batchName changesetName rs = .error .readInChangeset := by
  obtain ⟨r, hr, hread⟩ := h
  obtain ⟨i, hi⟩ : ∃ i, (r, i) ∈ rs.zipIdx := by
    obtain ⟨i, hlt, rfl⟩ := List.mem_iff_getElem.1 hr
    exact ⟨i, by simp [List.mem_zipIdx_iff_getElem?]⟩
  have hparts := @mapM_part_of_read s rs.zipIdx ⟨(r, i), hi, hread⟩
  obtain ⟨q, rs, rfl⟩ := List.exists_cons_of_ne_nil (List.ne_nil_of_mem hr)
  show (((q :: rs).zipIdx.mapM fun (r, i) => part s (i + 1) r) >>= _) = _
  rw [hparts]
  rfl

section Framing

variable {s : Service} {batchName changesetName : String} {rs : List Request}

theorem Framable.not_infix_part (h : Framable s batchName changesetName rs) {boundary : String}
    (hboundary : boundary ∈ ["batch_" ++ batchName, "changeset_" ++ changesetName])
    (hb : IsLine boundary) (hmark : '_' ∈ boundary.toList) :
    ∀ part ∈ changesetParts s rs, ¬(delimiter boundary).toList <:+: part.toList := by
  intro part hpart hm
  obtain ⟨e, he, rfl⟩ := List.mem_map.1 hpart
  exact h.absent e.1 (List.fst_mem_of_mem_zipIdx he) boundary hboundary (infix_part hb hmark hm)

theorem Framable.not_infix_changeset (h : Framable s batchName changesetName rs)
    (hb : IsLine ("batch_" ++ batchName)) :
    ¬(delimiter ("batch_" ++ batchName)).toList <:+:
      (join lineEnd [changesetLine ("changeset_" ++ changesetName)] ++ lineEnd ++ lineEnd ++
        frame ("changeset_" ++ changesetName) (changesetParts s rs)).toList := by
  obtain ⟨hreturn, hfeed⟩ := not_mem_delimiter hb
  have hname := h.named.2.not_mem
  have hclosed : '_' ∉ changesetName.toList ++ ['-', '-'] := by simpa using hname
  have hchars (lead : String) : (lead ++ ("changeset_" ++ changesetName)).toList =
      lead.toList ++ "changeset".toList ++ '_' :: changesetName.toList := by simp
  have hline : (changesetLine ("changeset_" ++ changesetName)).toList = _ :=
    hchars "Content-Type: multipart/mixed; boundary="
  have hopening : (delimiter ("changeset_" ++ changesetName)).toList = _ := hchars "--"
  have hclosing : (delimiter ("changeset_" ++ changesetName) ++ "--").toList =
      "--".toList ++ "changeset".toList ++ '_' :: (changesetName.toList ++ ['-', '-']) := by
    rw [String.toList_append, hopening]
    simp
  intro hm
  rcases infix_headed hreturn hfeed hm with hm | hm
  · rw [join, String.intercalate_singleton] at hm
    exact not_infix_of_changeset _ hline (by decide) hname hm
  rcases infix_frame hreturn hfeed hm with hm | hm | ⟨part, hpart, hm⟩
  · exact not_infix_of_changeset _ hopening (by decide) hname hm
  · exact not_infix_of_changeset _ hclosing (by decide) hclosed hm
  · exact h.not_infix_part (by simp) hb (by simp) part hpart hm

end Framing

/-- A text that is one part under the boundary of the batch. The part names the boundary of the
changeset, and the changeset has one part for each request, in order and numbered from one. -/
def Frames (s : Service) (batchName changesetName : String) (rs : List Request) (text : String) :
    Prop :=
  ∃ part changeset parts, framed? ("batch_" ++ batchName) text = some [part] ∧
    headed? part = some ([changesetLine ("changeset_" ++ changesetName)], changeset) ∧
    framed? ("changeset_" ++ changesetName) changeset = some parts ∧
    List.Forall₂ (fun part entry => Holds s part (entry.2 + 1) entry.1) parts rs.zipIdx

/-- A batch frames its requests one by one and in order, and refuses reads and empty lists. -/
theorem request_framed {baseUrl : String} {s : Service} (hs : Service.ofUrl baseUrl = .ok s)
    (batchName changesetName : String) (rs : List Request) :
    (Framable s batchName changesetName rs →
      ∃ r, request s batchName changesetName rs = .ok r ∧
        ("Content-Type", "multipart/mixed; boundary=" ++ ("batch_" ++ batchName)) ∈ r.headers ∧
        Frames s batchName changesetName rs (r.body.getD "")) ∧
    (rs = [] → request s batchName changesetName rs = .error .emptyBatch) ∧
    ((∃ r ∈ rs, upper r.method = "GET") →
      request s batchName changesetName rs = .error .readInChangeset) := by
  refine ⟨fun h => ?_, ?_, request_of_read⟩
  · have hb : IsLine ("batch_" ++ batchName) :=
      IsLine.append ⟨by decide, by decide⟩ h.named.1.unbroken
    have hc : IsLine ("changeset_" ++ changesetName) :=
      IsLine.append ⟨by decide, by decide⟩ h.named.2.unbroken
    have hline : IsLine (changesetLine ("changeset_" ++ changesetName)) :=
      IsLine.append ⟨by decide, by decide⟩ hc.unbroken
    have hparts : changesetParts s rs ≠ [] := by
      simpa [changesetParts] using h.ne_nil
    have hbatch := framed?_frame hb (List.forall_mem_singleton.2 (h.not_infix_changeset hb))
    rw [← body_eq_frame hparts] at hbatch
    have hhead := headed?_join (List.cons_ne_nil _ []) (List.forall_mem_singleton.2 hline)
      (frame ("changeset_" ++ changesetName) (changesetParts s rs))
    have hchangeset := framed?_frame hc (h.not_infix_part (by simp) hc (by simp))
    refine ⟨_, request_of_writes h.ne_nil h.writes, List.mem_cons_self, _, _, _, hbatch, hhead,
      hchangeset, ?_⟩
    rw [changesetParts, List.forall₂_map_left_iff, List.forall₂_same]
    exact fun e he => holds_partLines hs (h.onLines e.1 (List.fst_mem_of_mem_zipIdx he)) _
  · rintro rfl
    rfl

/-- Two writes: one with a body that looks like the end of a part, one without a body. -/
def exampleWrites : List Request :=
  [{ method := "patch", uri := "/Orders('ä 1')", headers := [("If-Match", "*")],
     body := some "{}\r\n\r\n--changeset_\r\nä" },
   { method := "DELETE", uri := "Orders(2)" }]

theorem request_framed_exampleWrites :
    Service.ofUrl "https://host/srv" = .ok ⟨"host", "/srv/"⟩ ∧
      Framable ⟨"host", "/srv/"⟩ "0a-1" "0a-2" exampleWrites ∧
      ∃ r, request ⟨"host", "/srv/"⟩ "0a-1" "0a-2" exampleWrites = .ok r ∧
        Frames ⟨"host", "/srv/"⟩ "0a-1" "0a-2" exampleWrites (r.body.getD "") := by
  have hservice : Service.ofUrl "https://host/srv" = .ok ⟨"host", "/srv/"⟩ := by rfl
  have honLines : ∀ r ∈ exampleWrites, OnLines r := by
    simp only [exampleWrites, List.forall_mem_cons]
    exact ⟨⟨by decide, by decide⟩, ⟨by decide, by decide⟩, nofun⟩
  have hframable : Framable ⟨"host", "/srv/"⟩ "0a-1" "0a-2" exampleWrites :=
    ⟨by decide, by decide, honLines, ⟨⟨by decide, by decide⟩, ⟨by decide, by decide⟩⟩,
      by decide +kernel⟩
  obtain ⟨r, hr, -, hframes⟩ := (request_framed hservice "0a-1" "0a-2" exampleWrites).1 hframable
  exact ⟨hservice, hframable, r, hr, hframes⟩

end EntityQuery.Batch
