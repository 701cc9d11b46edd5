import EntityQuery.Batch.Request
import EntityQuery.Proofs.QueryRoundTrip
import EntityQuery.Proofs.UrlTarget

/-!
# Where a write of a batch goes

A session puts the address of a request behind its base, or takes it as it is if it is absolute; a
batch puts every address behind the path of the base. So a write in a batch goes where it would go
alone only if its address is relative (`Service.not_agrees_of_isAbsolute`), and all relative ones do
exactly if the base has a path and neither a query nor a fragment (`batch_target_iff`).
-/

namespace EntityQuery

open Text Url

namespace Batch

/-- The line of a request in a batch asks for what the session asks for. -/
def Service.Agrees (s : Service) (c : Config) (r : Request) : Prop :=
  ∀ contentId, (partLines s contentId r)[4]? =
    some (upper r.method ++ " " ++ target (c.url r.encodedUri) ++ " HTTP/1.1")

variable {s : Service} {c : Config} {r : Request}

theorem Service.agrees_iff :
    s.Agrees c r ↔ s.absolutePath r.encodedUri = target (c.url r.encodedUri) := by
  have hline (contentId : Nat) : (partLines s contentId r)[4]? =
      some (upper r.method ++ " " ++ s.absolutePath r.encodedUri ++ " HTTP/1.1") := rfl
  simp only [Agrees, hline, Option.some.injEq, forall_const]
  constructor
  · intro h
    simpa [← String.toList_inj] using h
  · intro h
    rw [h]

/-- The path of the base of a session. -/
def rootPath (c : Config) : List Char := (target c.root).toList.takeWhile (· != '?')

theorem Service.basePath_eq (hs : Service.ofUrl c.baseUrl = .ok s) :
    s.basePath.toList = if rootPath c = [] then ['/'] else rootPath c := by
  obtain ⟨p, hp, hs⟩ := Except.bind_eq_ok_iff.1 hs
  have hpath : p.path = String.ofList (rootPath c) := path_of_split hp
  have hempty : p.path = "" ↔ rootPath c = [] := by
    rw [hpath, ← String.toList_inj, String.toList_ofList]
    rfl
  cases hs
  simp only [hempty]
  split_ifs
  · rfl
  · rw [hpath, String.toList_ofList]

theorem url_of_fixedParams (hfixed : c.fixedParams = []) (uri : String) : c.url uri =
    if Config.isAbsolute uri then uri else c.root ++ trimStartChar '/' uri := by
  have hnone : encodedQuery c.fixedParams = "" :=
    encodedQuery_eq_empty_iff.2 (congrArg named hfixed)
  rw [Config.url, appendQuery, if_pos hnone]

theorem exists_of_isAbsolute {uri : String} (h : Config.isAbsolute uri = true) :
    ∃ rest, uri.toList = 'h' :: rest := by
  rw [Config.isAbsolute, Bool.or_eq_true] at h
  rcases h with h | h <;>
    (obtain ⟨rest, hrest⟩ := Option.isSome_iff_exists.1 h
     exact ⟨_, after?_eq_some.1 hrest⟩)

/-- An absolute address is put behind the path of the service. -/
theorem Service.not_agrees_of_isAbsolute (hs : Service.ofUrl c.baseUrl = .ok s)
    (hfixed : c.fixedParams = []) (habsolute : Config.isAbsolute r.encodedUri = true) :
    ¬s.Agrees c r := by
  rw [agrees_iff]
  intro h
  have hurl : c.url r.encodedUri = r.encodedUri := by
    rw [url_of_fixedParams hfixed, if_pos habsolute]
  have htrim : trimStartChar '/' r.encodedUri = r.encodedUri := by
    obtain ⟨rest, hrest⟩ := exists_of_isAbsolute habsolute
    rw [← String.toList_inj, trimStartChar, String.toList_ofList, hrest]
    rfl
  have hbase : 0 < s.basePath.length := by
    rw [← String.length_toList, Service.basePath_eq hs]
    split_ifs with hempty
    · decide
    · exact List.length_pos_iff.2 hempty
  have hlength := length_target_le r.encodedUri
  rw [absolutePath, htrim, hurl] at h
  rw [← h, String.length_append] at hlength
  omega

/-- What is put behind a base counts in full, and begins no authority. -/
theorem relative_encodedUri (r : Request) :
    (∀ x ∈ (trimStartChar '/' r.encodedUri).toList, isSignificant x = true) ∧
      (trimStartChar '/' r.encodedUri).toList.head? ≠ some '/' ∧
      '#' ∉ (trimStartChar '/' r.encodedUri).toList := by
  have hsubset : (trimStartChar '/' r.encodedUri).toList ⊆ r.encodedUri.toList := by
    rw [trimStartChar, String.toList_ofList]
    exact (List.dropWhile_sublist _).subset
  refine ⟨fun x hx => ?_, ?_, ?_⟩
  · have hsent := Request.mem_encodedUri (hsubset hx)
    simp only [isSignificant, Bool.and_eq_true, bne_iff_ne]
    refine ⟨⟨?_, ?_⟩, ?_⟩ <;> rintro rfl <;> exact absurd hsent (by decide)
  · intro hhead
    have hdropped := List.head?_dropWhile_not (· == '/') r.encodedUri.toList
    rw [trimStartChar, String.toList_ofList] at hhead
    rw [hhead] at hdropped
    cases hdropped
  · intro hmem
    exact absurd (Request.mem_encodedUri (hsubset hmem)) (by decide)

theorem root_eq_append_empty : trimEndChar '/' c.baseUrl ++ "/" ++ "" = c.root := by
  rw [String.append_empty, Config.root]

theorem significant_empty : ∀ x ∈ "".toList, isSignificant x = true := List.forall_mem_nil _

/-- A base without a query and a fragment, but with a path, is a place for every relative
address. -/
theorem Service.agrees_of_relative (hs : Service.ofUrl c.baseUrl = .ok s)
    (hfixed : c.fixedParams = []) (hrelative : Config.isAbsolute r.encodedUri = false)
    (hquery : '?' ∉ c.baseUrl.toList) (hfragment : '#' ∉ c.baseUrl.toList)
    (hpath : target c.root ≠ "") : s.Agrees c r := by
  obtain ⟨hsignificant, hslash, hmark⟩ := relative_encodedUri r
  have hsubset := (sublist_hierarchy c.root).subset
  have hquery : '?' ∉ hierarchy c.root := fun h =>
    hquery ((Config.mem_root_iff (by decide)).1 (hsubset h))
  have hfragment : '#' ∉ hierarchy c.root := fun h =>
    hfragment ((Config.mem_root_iff (by decide)).1 (hsubset h))
  have htarget : (target c.root).toList = hierarchy c.root := by
    rw [target, String.toList_ofList, List.takeWhile_ne_eq_self hfragment]
  have hroot : rootPath c = hierarchy c.root := by
    rw [rootPath, htarget, List.takeWhile_ne_eq_self hquery]
  have hpath : hierarchy c.root ≠ [] := by
    rw [← htarget]
    exact mt String.toList_eq_nil_iff.1 hpath
  rw [agrees_iff, url_of_fixedParams hfixed, if_neg (by simp [hrelative]), ← String.toList_inj,
    absolutePath, String.toList_append, basePath_eq hs, hroot, if_neg hpath]
  rcases exists_hierarchy_append (trimEndChar '/' c.baseUrl) with hnone | ⟨h, hh⟩
  · have hempty := hnone "" significant_empty
    rw [root_eq_append_empty] at hempty
    exact absurd hempty hpath
  · have hempty := hh "" significant_empty (by decide)
    rw [root_eq_append_empty] at hempty
    have hjoined := hh _ hsignificant hslash
    rw [← Config.root] at hjoined
    rw [target, String.toList_ofList, hjoined, List.takeWhile_ne_eq_self]
    · simp [hempty]
    · rw [hempty] at hfragment
      simp_all

/-- A base with a query or a fragment, or without a path, is no place for a short address. -/
theorem Service.base_of_agrees (hs : Service.ofUrl c.baseUrl = .ok s)
    (hfixed : c.fixedParams = []) (h : s.Agrees c { method := "POST", uri := "x" }) :
    '?' ∉ c.baseUrl.toList ∧ '#' ∉ c.baseUrl.toList ∧ target c.root ≠ "" := by
  have huri : ({ method := "POST", uri := "x" } : Request).encodedUri = "x" := by decide +kernel
  have htrim : trimStartChar '/' "x" = "x" := by decide +kernel
  have hsignificant : ∀ y ∈ "x".toList, isSignificant y = true :=
    List.forall_mem_singleton.2 (by decide)
  rw [agrees_iff, huri, url_of_fixedParams hfixed, if_neg (by decide), htrim, absolutePath, htrim,
    ← String.toList_inj, String.toList_append, basePath_eq hs] at h
  rcases exists_hierarchy_append (trimEndChar '/' c.baseUrl) with hnone | ⟨front, hfront⟩
  · have hnothing : hierarchy (c.root ++ "x") = [] := hnone "x" hsignificant
    rw [target, hnothing] at h
    simp at h
  have hroot : hierarchy c.root = front ++ ['/'] := by
    rw [← root_eq_append_empty]
    exact hfront "" significant_empty (by decide)
  have hjoined : hierarchy (c.root ++ "x") = hierarchy c.root ++ "x".toList := by
    rw [hroot, List.append_assoc]
    exact hfront "x" hsignificant (by decide)
  have hplain : ¬('?' ∈ hierarchy c.root ∨ '#' ∈ hierarchy c.root) := by
    intro hmark
    obtain ⟨rest, hrest, hhead⟩ := takeWhile_append_of_mark hmark "x".toList
    have htarget : (target (c.root ++ "x")).toList = rootPath c ++ rest := by
      rw [target, rootPath, target, String.toList_ofList, String.toList_ofList, hjoined, hrest]
    rw [htarget] at h
    split_ifs at h with hempty
    · rw [hempty, List.nil_append] at h
      subst h
      exact absurd hhead (by decide)
    · obtain rfl := List.append_cancel_left h
      exact absurd hhead (by decide)
  rw [not_or] at hplain
  refine ⟨fun hmem =>
      hplain.1 (mem_hierarchy (.inl rfl) ((Config.mem_root_iff (by decide)).2 hmem)),
    fun hmem => hplain.2 (mem_hierarchy (.inr rfl) ((Config.mem_root_iff (by decide)).2 hmem)), ?_⟩
  rw [target, List.takeWhile_ne_eq_self hplain.2, hroot]
  simp

end Batch

open Batch

/-- No write to an absolute address goes in a batch where it would go alone. All writes to relative
addresses do exactly if the base has a path, and neither a query nor a fragment. -/
theorem batch_target_iff {c : Config} {s : Service} (hs : Service.ofUrl c.baseUrl = .ok s)
    (hfixed : c.fixedParams = []) :
    (∀ r : Request, Config.isAbsolute r.encodedUri = true → ¬s.Agrees c r) ∧
      ((∀ r : Request, upper r.method ≠ "GET" → Config.isAbsolute r.encodedUri = false →
        s.Agrees c r) ↔
        '?' ∉ c.baseUrl.toList ∧ '#' ∉ c.baseUrl.toList ∧ target c.root ≠ "") := by
  refine ⟨fun r => Service.not_agrees_of_isAbsolute hs hfixed, fun h => ?_, ?_⟩
  · exact Service.base_of_agrees hs hfixed (h _ (by decide +kernel) (by decide +kernel))
  · rintro ⟨hquery, hfragment, hpath⟩ r - hrelative
    exact Service.agrees_of_relative hs hfixed hrelative hquery hfragment hpath

theorem batch_target_relative :
    let c : Config := { baseUrl := "https://service.example.com/v1//" }
    Service.ofUrl c.baseUrl = .ok ⟨"service.example.com", "/v1/"⟩ ∧ c.fixedParams = [] ∧
      Service.Agrees ⟨"service.example.com", "/v1/"⟩ c
        { method := "PATCH", uri := "/Orders('a b')?x=1" } := by
  intro c
  have hs : Service.ofUrl c.baseUrl = .ok ⟨"service.example.com", "/v1/"⟩ := by decide +kernel
  obtain ⟨-, hall⟩ := batch_target_iff hs rfl
  refine ⟨hs, rfl, hall.2 ⟨?_, ?_, ?_⟩ _ ?_ ?_⟩ <;> decide +kernel

/-- The address of an item on its own host is taken for one below the base, and a query of the base
is lost. -/
theorem batch_target_astray :
    (let c : Config := { baseUrl := "https://test.example.com/api/" }
      let s : Service := ⟨"test.example.com", "/api/"⟩
      let r : Request := { method := "POST", uri := "https://test.example.com/api/Items" }
      Service.ofUrl c.baseUrl = .ok s ∧ target (c.url r.encodedUri) = "/api/Items" ∧
        s.absolutePath r.encodedUri = "/api/https://test.example.com/api/Items" ∧
        ¬s.Agrees c r) ∧
    let c : Config := { baseUrl := "https://test.example.com/api?v=1" }
    let s : Service := ⟨"test.example.com", "/api"⟩
    let r : Request := { method := "POST", uri := "Items" }
    Service.ofUrl c.baseUrl = .ok s ∧ target (c.url r.encodedUri) = "/api?v=1/Items" ∧
      s.absolutePath r.encodedUri = "/apiItems" ∧ ¬s.Agrees c r := by
  simp only [Service.agrees_iff]
  decide +kernel

end EntityQuery
