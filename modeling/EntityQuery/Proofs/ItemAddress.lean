import EntityQuery.Proofs.ItemPlan

/-!
# The address of an item

Items that are read one by one have one address with the identifier of each filled in
(`Plan.itemAddress?`). The identifier is looked up by its name alone, so that what is filled in is
the text of the first condition over that name, which may be another one than the condition that
names the items (`Plan.askedText?`). The requests are sent in the order of the items, and each reads
its own item exactly if that text is the one of the item (`read_addresses_items_iff`).
-/

namespace EntityQuery

open Text Url

/-- Whether a placeholder stands for the identifier of an item. -/
def StandsForItem (uid name : String) : Prop :=
  lower name = "uid" ∨ lower name = "~uid" ∨ lower name = lower uid

instance (uid name : String) : Decidable (StandsForItem uid name) :=
  inferInstanceAs (Decidable (_ ∨ _))

namespace Plan

/-- The first condition over the name of the identifier in front of a place. -/
def earlier? (p : Plan) (uid : String) (place : Place) : Option Condition :=
  (p.leaves.take (p.number place)).find? fun c => lower c.name == lower uid

/-- The text that is put in for the item `v`: that of an earlier condition over the same name if
there is one, whatever it asks for, else that of the item. -/
def askedText? (p : Plan) (uid : String) (place : Place) (v : Value) : Option String :=
  match p.earlier? uid place with
  | some c => c.addressText?.toOption.join
  | none => v.addressText?

/-- What a placeholder becomes where a text stands for the identifier. -/
def itemValue? (p : Plan) (uid : String) (text : Option String) (name : String) : Option String :=
  if StandsForItem uid name then text else (p.placeholderValue? name).toOption.join

/-- The address for single items with a text for the identifier. -/
def filledAddress? (p : Plan) (uid : String) (text : Option String) : Option String :=
  fillPlaceholders? (p.itemValue? uid text) (p.options.uidRequestDataAddress.getD "")

/-- The address of the item `v`. -/
def itemAddress? (p : Plan) (uid : String) (v : Value) : Option String :=
  p.filledAddress? uid v.addressText?

/-- The address that is read for the item `v`. -/
def askedAddress? (p : Plan) (uid : String) (place : Place) (v : Value) : Option String :=
  p.filledAddress? uid (p.askedText? uid place v)

/-- An address for single items that is used: no condition is sent to an address of its own, and
the address has a placeholder for the identifier and a value for each of its placeholders. -/
structure AddressesItems (p : Plan) (d : Dialect) (uid : String) : Prop where
  noOwnAddress : ∀ l ∈ p.topLevel,
    nonEmpty? l.2.options.filterRemoteUrl = none ∨ d.filterStyle.isRemote l.2 = false
  identified : ∃ name ∈ placeholders (p.options.uidRequestDataAddress.getD ""),
    StandsForItem uid name
  filled : ∀ name ∈ placeholders (p.options.uidRequestDataAddress.getD ""),
    ∃ text, p.placeholderValue? name = .ok (some text)

end Plan

/-- A request reads from an address. Its parameters come behind those of the address. -/
def Request.ReadsFrom (r : Request) (d : Dialect) (address : String) : Prop :=
  ∃ params, r = .withParams "GET" (pathOf address) (parseQuery (queryOf address) ++ params)
    d.readHeaders

/-- A request reads from an address that is filled in, adapted as the entity asks for. The requests
of query documents have no address. -/
def Plan.ReadsFilled (p : Plan) (d : Dialect) (filled? : Option String) (r : Request) : Prop :=
  d ≠ .graphql → ∃ filled address, filled? = some filled ∧
    adaptAddress p.options filled = .ok address ∧ r.ReadsFrom d address

/-- A request reads the item `v`. -/
def Plan.ReadsItem (p : Plan) (d : Dialect) (uid : String) (v : Value) (r : Request) : Prop :=
  p.ReadsFilled d (p.itemAddress? uid v) r

theorem FilterStyle.isRemote_congr (t : FilterStyle) {c c' : Condition}
    (h : c'.target = c.target) : t.isRemote c' = t.isRemote c := by
  unfold isRemote Condition.options
  rw [h]

namespace Plan

variable {d : Dialect} {q : Query} {p p' : Plan} {uid : String} {place : Place}
  {c c' : Condition} {values : List Value} {v : Value}

theorem lower_placeholderKey (huid : p.entity.uid? = some uid) (name : String) :
    lower (p.placeholderKey name) = lower uid ↔ StandsForItem uid name := by
  unfold placeholderKey StandsForItem
  rw [huid, Option.getD_some]
  split_ifs with h
  · exact ⟨fun _ => or_assoc.1 (.inl h), fun _ => rfl⟩
  · rw [not_or] at h
    simp [h]

theorem lacksFilters_eq_false (h : p.leaves ≠ []) : p.lacksFilters = false := by
  by_contra hlacks
  rw [Bool.not_eq_false, lacksFilters, Bool.and_eq_true, Bool.and_eq_true] at hlacks
  obtain ⟨⟨-, hremote⟩, hlocal⟩ := hlacks
  rw [leaves, Group.leaves_of_isEmpty _ hremote, Group.leaves_of_isEmpty _ hlocal] at h
  exact h rfl

end Plan

namespace ItemRead

variable {d : Dialect} {q : Query} {p : Plan} {uid : String} {place : Place} {c : Condition}
  {values : List Value} {v : Value}

/-- The condition that is asked for the identifier: an earlier one over its name if there is one,
else the one that names the items. -/
theorem find?_eq_earlier? (h : ItemRead d q p uid place c values) {name : String}
    (hname : StandsForItem uid name) :
    p.find? name = some ((p.earlier? uid place).getD c) := by
  have hget := Plan.getElem?_leaves h.mem_topLevel
  obtain ⟨hlt, hleaf⟩ := List.getElem?_eq_some_iff.1 hget
  have hself := List.set_getElem_self hlt
  rw [hleaf] at hself
  have hlower := (Plan.lower_placeholderKey h.uid?_eq name).2 hname
  have hc : c.name = uid := (Plan.namesItems_iff.1 h.namesItems).1
  rw [Plan.find?_eq, hlower, ← hself, find?_set_of_pos hlt (by simp [hc])]
  rfl

/-- The condition that names the items has the text of one of them. -/
theorem exists_addressText? (h : ItemRead d q p uid place c values) :
    ∃ text, c.addressText? = .ok (some text) := by
  obtain ⟨-, hcomparator, values', hvalues, hne⟩ := Plan.namesItems_iff.1 h.namesItems
  cases h.named.symm.trans hvalues
  have hmembers := Condition.members_eq_of_values h.named
  obtain ⟨v, hv, htext⟩ : ∃ v ∈ values, c.addressText? = .ok v.addressText? := by
    by_cases hin : c.comparator = .isIn
    · obtain ⟨v, rest, rfl⟩ := List.exists_cons_of_ne_nil hne
      refine ⟨v, List.mem_cons_self, ?_⟩
      rw [Condition.addressText?, hin, h.named]
      rfl
    · refine ⟨c.value, ?_, ?_⟩
      · rw [← hmembers, h.single.resolve_left hin]
        exact List.mem_singleton_self _
      · rw [Condition.addressText?, hcomparator.resolve_right hin]
        rfl
  obtain ⟨text, hsome⟩ := Value.exists_addressText? (h.isMissing_eq_false hv)
  exact ⟨text, by rw [htext, hsome]⟩

/-- Where the condition that names the items is the first over its name, the identifier has a
value. -/
theorem exists_placeholderValue? (h : ItemRead d q p uid place c values)
    (hfirst : p.earlier? uid place = none) {name : String} (hname : StandsForItem uid name) :
    ∃ text, p.placeholderValue? name = .ok (some text) := by
  rw [Plan.placeholderValue?, h.find?_eq_earlier? hname, hfirst]
  exact h.exists_addressText?

theorem addressText?_earlier (h : ItemRead d q p uid place c values)
    (ha : p.AddressesItems d uid) {first : Condition}
    (hearlier : p.earlier? uid place = some first) :
    ∃ text, first.addressText? = .ok (some text) := by
  obtain ⟨name, hmem, hname⟩ := ha.identified
  obtain ⟨text, htext⟩ := ha.filled name hmem
  rw [Plan.placeholderValue?, h.find?_eq_earlier? hname, hearlier] at htext
  exact ⟨text, htext⟩

theorem exists_askedText? (h : ItemRead d q p uid place c values) (ha : p.AddressesItems d uid)
    (hv : v ∈ values) : ∃ text, p.askedText? uid place v = some text := by
  unfold Plan.askedText?
  cases hearlier : p.earlier? uid place with
  | none => exact Value.exists_addressText? (h.isMissing_eq_false hv)
  | some first =>
    obtain ⟨text, htext⟩ := h.addressText?_earlier ha hearlier
    exact ⟨text, by simp only [htext]; rfl⟩

/-- With a text for the identifier, the address can be filled in. -/
theorem exists_filledAddress? (ha : p.AddressesItems d uid) (text : String) :
    ∃ filled, p.filledAddress? uid (some text) = some filled := by
  refine exists_fillPlaceholders?_eq_some _ fun name hname => ?_
  unfold Plan.itemValue?
  split_ifs
  · exact ⟨text, rfl⟩
  · obtain ⟨value, hvalue⟩ := ha.filled name hname
    exact ⟨value, by rw [hvalue]; rfl⟩

/-- The address that is read for an item is its own exactly if the text that is put in is. -/
theorem askedAddress?_eq_iff (h : ItemRead d q p uid place c values) (ha : p.AddressesItems d uid)
    (hv : v ∈ values) : p.askedAddress? uid place v = p.itemAddress? uid v ↔
      p.askedText? uid place v = v.addressText? := by
  obtain ⟨asked, hasked⟩ := h.exists_askedText? ha hv
  obtain ⟨own, hown⟩ := Value.exists_addressText? (h.isMissing_eq_false hv)
  rw [Plan.askedAddress?, Plan.itemAddress?, hasked, hown]
  refine ⟨fun heq =>
      congrArg some (fillPlaceholders?_inj ha.identified (fun name hname _ => ?_) heq),
    fun heq => by rw [heq]⟩
  obtain ⟨value, hvalue⟩ := ha.filled name hname
  exact ⟨value, by rw [hvalue]; rfl⟩

/-- Where the condition that names the items is the first over its name, each is read from its own
address. -/
theorem askedAddress?_of_first (hfirst : p.earlier? uid place = none) :
    p.askedAddress? uid place v = p.itemAddress? uid v := by
  rw [Plan.askedAddress?, Plan.askedText?, hfirst, Plan.itemAddress?]

end ItemRead

namespace Plan

variable {d : Dialect} {q : Query} {p p' : Plan} {uid : String} {place : Place}
  {c c' : Condition} {values : List Value} {v : Value}

namespace ForItem

theorem getElem?_leaves (hf : p.ForItem uid place c v p' c')
    (h : ItemRead d q p uid place c values) : p'.leaves[p.number place]? = some c' := by
  obtain ⟨hlt, -⟩ := List.getElem?_eq_some_iff.1 (Plan.getElem?_leaves h.mem_topLevel)
  rw [hf.leaves, List.getElem?_set_self hlt]

theorem itemCondition?_eq (hf : p.ForItem uid place c v p' c')
    (h : ItemRead d q p uid place c values) : p'.itemCondition? = .ok (some (place, c')) := by
  obtain ⟨address, -, haddress, -⟩ := itemCondition?_eq_some_iff.1 h.switched
  refine itemCondition?_eq_some_iff.2 ⟨address, uid, ?_, ?_, ?_⟩
  · rw [options, hf.query]
    exact haddress
  · rw [entity, hf.query]
    exact h.uid?_eq
  · rw [hf.topLevel]
    exact firstNaming_putAt h.firstNaming_eq (fun l => h.eq_of_place) hf.names

theorem placeholderValue?_eq (hf : p.ForItem uid place c v p' c')
    (h : ItemRead d q p uid place c values) (ha : p.AddressesItems d uid) {name : String}
    (hname : name ∈ placeholders (p.options.uidRequestDataAddress.getD "")) :
    p'.placeholderValue? name = .ok (p.itemValue? uid (p.askedText? uid place v) name) := by
  have hkey : p'.placeholderKey name = p.placeholderKey name := by
    rw [placeholderKey, placeholderKey, entity, entity, hf.query]
  have hget := Plan.getElem?_leaves h.mem_topLevel
  obtain ⟨hlt, -⟩ := List.getElem?_eq_some_iff.1 hget
  have hc : c.name = uid := (namesItems_iff.1 h.namesItems).1
  have hc' : c'.name = uid := (namesItems_iff.1 hf.names).1
  unfold placeholderValue? itemValue?
  rw [find?_eq, hkey, hf.leaves]
  by_cases hstands : StandsForItem uid name
  · have hlower := (lower_placeholderKey h.uid?_eq name).2 hstands
    rw [if_pos hstands, find?_set_of_pos hlt (by simp [hc', hlower]), hlower, ← earlier?]
    cases hearlier : p.earlier? uid place with
    | none =>
      rw [askedText?, hearlier]
      exact hf.text
    | some first =>
      obtain ⟨text, htext⟩ := h.addressText?_earlier ha hearlier
      rw [askedText?, hearlier, Option.getD_some]
      simp only [htext]
      rfl
  · have hlower := (lower_placeholderKey h.uid?_eq name).not.2 hstands
    rw [if_neg hstands, find?_set_of_not hget (by simpa [hc] using Ne.symm hlower)
      (by simpa [hc'] using Ne.symm hlower), ← find?_eq]
    obtain ⟨text, htext⟩ := ha.filled name hname
    rw [placeholderValue?] at htext
    rw [placeholderValue?, htext]
    rfl

/-- The plan for an item is read from the address that is asked for. -/
theorem exists_endpoint (hf : p.ForItem uid place c v p' c')
    (h : ItemRead d q p uid place c values) (ha : p.AddressesItems d uid)
    (hv : v ∈ values) : ∃ filled, p.askedAddress? uid place v = some filled ∧
      p'.endpoint d = (do pure ⟨some (← adaptAddress p.options filled), [(place, c')]⟩) := by
  have hoptions : p'.options = p.options := by rw [options, hf.query]; rfl
  obtain ⟨asked, hasked⟩ := h.exists_askedText? ha hv
  obtain ⟨filled, hfilled⟩ := ItemRead.exists_filledAddress? ha asked
  rw [← hasked] at hfilled
  have haddress : p'.addressFor (some (place, c')) = p.options.uidRequestDataAddress.getD "" := by
    rw [addressFor, hoptions]
    rfl
  have hfilled' := hfilled
  rw [filledAddress?, ← haddress] at hfilled'
  refine ⟨filled, hfilled, ?_⟩
  rw [← hoptions]
  refine endpoint_of_filled (hf.itemCondition?_eq h) (fun l hl => ?_) (fun name hname => ?_)
    hfilled'
  · rw [hf.topLevel] at hl
    obtain ⟨l₀, hl₀, rfl⟩ := List.mem_map.1 hl
    unfold Located.putAt
    split_ifs
    · rw [d.filterStyle.isRemote_congr hf.target, Condition.options, hf.target]
      exact ha.noOwnAddress _ h.mem_topLevel
    · exact ha.noOwnAddress l₀ hl₀
  · rw [haddress] at hname
    exact hf.placeholderValue?_eq h ha hname

/-- The plan for an item has a request, which reads from the address that is asked for. -/
theorem exists_request (hf : p.ForItem uid place c v p' c')
    (h : ItemRead d q p uid place c values)
    (ha : d ≠ .graphql → p.AddressesItems d uid) (hv : v ∈ values) {r : Option Request}
    (hr : p'.readRequest? d = .ok r) :
    ∃ request, r = some request ∧ p.ReadsFilled d (p.askedAddress? uid place v) request := by
  have hlacks : p'.lacksFilters = false :=
    lacksFilters_eq_false (List.ne_nil_of_mem (List.mem_of_getElem? (hf.getElem?_leaves h)))
  by_cases hd : d = .graphql
  · subst hd
    obtain ⟨hlacking, -⟩ | ⟨fields, arguments, -, rfl⟩ := readRequest?_document_cases hr
    · cases hlacks.symm.trans hlacking
    · exact ⟨_, rfl, fun hd => absurd rfl hd⟩
  · obtain ⟨filled, hfilled, hendpoint⟩ := hf.exists_endpoint h (ha hd) hv
    rcases readRequest?_cases hd hr with ⟨hlacking, -⟩ | ⟨e, he, hnone, -⟩ |
      ⟨e, address, params, he, haddress, -, rfl⟩
    · rw [hlacks] at hlacking
      cases hlacking
    · rw [hendpoint] at he
      obtain ⟨adapted, -, he⟩ := Except.bind_eq_ok_iff.1 he
      cases he
      cases hnone
    · rw [hendpoint] at he
      obtain ⟨adapted, hadapted, he⟩ := Except.bind_eq_ok_iff.1 he
      cases he
      cases haddress
      exact ⟨_, rfl, fun _ => ⟨filled, _, hfilled, hadapted, params, rfl⟩⟩

end ForItem

/-- What is made of all that was fetched where the service cuts no window. -/
def finish (p : Plan) (fetched : List Fetched) : Except Error ReadResult :=
  if fetched.isEmpty then .ok .empty
  else do pure (p.localWindow (← p.refine (fetched.flatMap (·.rows))))

/-- Where items are read one by one, the service cuts no window. -/
theorem pagesRemotely_of_item {l : Located} (hitem : p.itemCondition? = .ok (some l)) :
    p.pagesRemotely d = .ok false := by
  unfold pagesRemotely
  rw [hitem]
  split_ifs <;> rfl

/-- A run whose window is cut after reading only finishes what it fetched. -/
theorem run_of_plans {σ : Type} {t : Transport σ} {s : σ} {itemScoped : Bool} {plans : List Plan}
    (hscope : p.isItemScoped = .ok itemScoped) (hremotely : p.pagesRemotely d = .ok false)
    (hplans : p.fanOut = .ok plans) :
    p.run d t s = ((fetchAll d t itemScoped plans s).1 >>= p.finish,
      (fetchAll d t itemScoped plans s).2) := by
  rw [run, Exchange.lift_bind_of_ok _ hscope, Exchange.lift_bind_of_ok _ hremotely,
    Exchange.lift_bind_of_ok _ hplans, ← Exchange.bind_lift_apply]
  refine congrFun (congrArg (fetchAll d t itemScoped plans >>= ·)
    (funext fun fetched => ?_)) s
  cases fetched with
  | nil => rfl
  | cons first others =>
    simp only [Bool.false_eq_true, if_false, finish, List.isEmpty_cons]
    cases p.refine ((first :: others).flatMap (·.rows)) <;> rfl

theorem run_of_item {σ : Type} {t : Transport σ} {s : σ} {l : Located} {plans : List Plan}
    (hitem : p.itemCondition? = .ok (some l)) (hplans : p.fanOut = .ok plans) :
    p.run d t s =
      ((fetchAll d t true plans s).1 >>= p.finish, (fetchAll d t true plans s).2) := by
  have hscope : p.isItemScoped = .ok true := by
    rw [isItemScoped, hitem]
    rfl
  exact run_of_plans hscope (pagesRemotely_of_item hitem) hplans

end Plan

/-- The plans of a read of items have a request for each value, in the order of the values. -/
theorem ItemRead.exists_requests {d : Dialect} {q : Query} {p : Plan} {uid : String}
    {place : Place} {c : Condition} {values : List Value} (h : ItemRead d q p uid place c values)
    (ha : d ≠ .graphql → p.AddressesItems d uid) : ∃ plans, p.fanOut = .ok plans ∧
      List.Forall₂ (fun v p' => p'.query = p.query ∧ ∃ request,
        p'.readRequest? d = .ok (some request) ∧
        p.ReadsFilled d (p.askedAddress? uid place v) request) values plans := by
  obtain ⟨plans, hplans, hall⟩ := h.exists_fanOut
  refine ⟨plans, hplans, hall.and_mem.imp fun v p' ⟨⟨hv, hp'⟩, c', hf⟩ => ?_⟩
  obtain ⟨r, hr⟩ := h.compiled plans hplans _ hp'
  obtain ⟨request, rfl, hreads⟩ := hf.exists_request h ha hv hr
  exact ⟨hf.query, request, hr, hreads⟩

/-- A read of items sends one request for each value, in the order of the values and up to the first
one that fails: all of them where the read ends well, and where the service answers them. Each reads
from the address for single items with one text for the identifier, which is the address of its own
item exactly if that text is the one of the item. -/
theorem read_addresses_items_iff {d : Dialect} {q : Query} {p : Plan} {uid : String}
    {place : Place} {c : Condition} {values : List Value} (h : ItemRead d q p uid place c values)
    (ha : d ≠ .graphql → p.AddressesItems d uid) :
    ∃ requests,
      List.Forall₂ (fun v r => p.ReadsFilled d (p.askedAddress? uid place v) r) values requests ∧
      (d ≠ .graphql → ∀ v ∈ values, p.askedAddress? uid place v = p.itemAddress? uid v ↔
        p.askedText? uid place v = v.addressText?) ∧
      ∀ {σ : Type} (t : Transport σ) (s : σ), ∃ sent,
        q.read d t.logged (s, []) = ((q.read d t s).1, ((q.read d t s).2, sent)) ∧
        sent <+: requests ∧
        (∀ result, (q.read d t s).1 = .ok result → sent = requests) ∧
        ((∀ r ∈ requests, ∃ rows, t.Answers d p.query true r rows) → sent = requests) := by
  obtain ⟨plans, hplans, hall⟩ := h.exists_requests ha
  have hboth : List.Forall₂ (fun v p' => ∃ request,
      p.ReadsFilled d (p.askedAddress? uid place v) request ∧
      p'.query = p.query ∧ p'.readRequest? d = .ok (some request)) values plans := by
    refine hall.imp fun v p' hplan => ?_
    obtain ⟨hquery, request, hr, hread⟩ := hplan
    exact ⟨request, hread, hquery, hr⟩
  obtain ⟨requests, hreads, hcompiled⟩ := hboth.exists_between
  refine ⟨requests, hreads, fun hd v hv => h.askedAddress?_eq_iff (ha hd) hv, fun {σ} t s => ?_⟩
  have hread : ∀ {τ : Type} (t : Transport τ) (s : τ), q.read d t s = p.run d t s := by
    intro τ t s
    rw [Query.read, Exchange.lift_bind_of_ok _ h.divided]
  obtain ⟨sent, hlog, hprefix, hsent⟩ :=
    Plan.log_fetchAll (hcompiled.imp fun _ _ h => h.2) t true s []
  rw [hread, hread, Plan.run_of_item h.switched hplans, Plan.run_of_item h.switched hplans, hlog]
  refine ⟨sent, by rw [List.nil_append], hprefix, fun result hok => ?_, fun hanswers => ?_⟩
  · obtain ⟨fetched, hfetched, -⟩ := Except.bind_eq_ok_iff.1 hok
    exact hsent fetched hfetched
  · have hserved : List.Forall₂ (fun p' _ => ∃ rows, p'.AnsweredWith d t true rows ∧ True)
        plans requests := by
      refine hcompiled.and_mem.imp fun p' r hplan => ?_
      obtain ⟨⟨-, hmem⟩, hquery, hr⟩ := hplan
      obtain ⟨rows, hrows⟩ := hanswers r hmem
      rw [← hquery] at hrows
      exact ⟨rows, ⟨r, hr, hrows⟩, trivial⟩
    obtain ⟨answers, hrows, -⟩ := hserved.exists_between
    obtain ⟨fetched, s', hfetch, -⟩ := Plan.fetchAll_of_answers hrows s
    exact hsent fetched (by rw [hfetch])

def itemId : Target := .attribute { name := "id", dataAddress := "id" }

/-- A condition for the items of a list. -/
def listed (ids : List Int) : Condition where
  target := itemId
  comparator := .isIn
  value := .list (ids.map .int)

def itemQuery (options : EntityOptions) (conditions : List Condition) : Query where
  entity :=
    { name := "items", dataAddress := "items", uidName := some "id",
      attributes := [{ name := "id", dataAddress := "id" }]
      options := { options with uidRequestDataAddress := some "items/[#uid#]" } }
  filters := .mk .and (conditions.map .condition) []

/-- The plan that leaves all filters and sorters for later. -/
def laterPlan (q : Query) : Plan where
  query := q
  localFilters := q.filters.markLocal
  localSorters := q.sorters.map Sorter.markLocal

/-- A service that has a page for each of its paths, and an empty one for all others. -/
def catalogue (pages : List (String × Value)) : Transport Unit where
  baseUrl := ""
  send r := pure { text := Json.write Json.compact ((pages.lookup r.path).getD (.list [])) }
  freshName := pure ""

theorem compiled_of_all {p : Plan} {d : Dialect}
    (h : (p.fanOut.toOption.all fun plans =>
      plans.all fun p' => (p'.readRequest? d).toOption.isSome) = true) :
    ∀ plans, p.fanOut = .ok plans → ∀ p' ∈ plans, ∃ r, p'.readRequest? d = .ok r := by
  intro plans hplans p' hp'
  rw [hplans] at h
  have hr := List.all_eq_true.1 h p' hp'
  cases hread : p'.readRequest? d with
  | ok r => exact ⟨r, rfl⟩
  | error e =>
    rw [hread] at hr
    cases hr

theorem values_listed (ids : List Int) : (listed ids).markLocal.values = .ok (ids.map .int) := by
  have hmembers : (ids.map Value.int).filter (!·.isMissing) = ids.map Value.int := by
    simp [List.filter_eq_self, Value.isMissing]
  exact congrArg Except.ok hmembers

theorem itemRead_listed {d : Dialect} {q : Query} {p : Plan} {place : Place} {ids : List Int}
    (hp : Plan.of d q = .ok p) (hid : q.entity.uid? = some "id")
    (hitem : p.itemCondition? = .ok (some (place, (listed ids).markLocal)))
    (hall : (p.fanOut.toOption.all fun plans =>
      plans.all fun p' => (p'.readRequest? d).toOption.isSome) = true) :
    ItemRead d q p "id" place (listed ids).markLocal (ids.map .int) where
  divided := hp
  identified := hid
  switched := hitem
  named := values_listed ids
  single := .inl rfl
  held := by simp [Value.Hollow]
  compiled := compiled_of_all hall

/-- A condition that names an item to leave out. -/
def notFive : Condition := { target := itemId, comparator := .notEquals, value := .int 5 }

/-- Two items, and behind them a further condition over their name. -/
def listedItems : Query := itemQuery {} [listed [2, 1], notFive]

theorem itemRead_listedItems : ItemRead .json listedItems (laterPlan listedItems) "id" (.locally 0)
    (listed [2, 1]).markLocal [.int 2, .int 1] :=
  itemRead_listed rfl rfl rfl (by decide +kernel)

theorem addressesItems_listedItems : (laterPlan listedItems).AddressesItems .json "id" where
  noOwnAddress := by decide +kernel
  identified := by decide +kernel
  filled := by
    have hall : ∀ name ∈ placeholders "items/[#uid#]", StandsForItem "id" name := by
      decide +kernel
    exact fun name hname => itemRead_listedItems.exists_placeholderValue? rfl (hall name hname)

/-- What comes behind the condition for the items does not change their addresses. -/
theorem sent_listedItems :
    ItemRead .json listedItems (laterPlan listedItems) "id" (.locally 0)
      (listed [2, 1]).markLocal [.int 2, .int 1] ∧
    (laterPlan listedItems).AddressesItems .json "id" ∧
    (laterPlan listedItems).itemAddress? "id" (.int 2) = some "items/2" ∧
    (laterPlan listedItems).itemAddress? "id" (.int 1) = some "items/1" ∧
    List.Forall₂ ((laterPlan listedItems).ReadsItem .json "id") [.int 2, .int 1]
      (listedItems.read .json (catalogue []).logged ((), [])).2.2 := by
  obtain ⟨requests, hreads, hown, hsent⟩ := read_addresses_items_iff itemRead_listedItems fun _ =>
    addressesItems_listedItems
  obtain ⟨sent, hlog, -, hall, -⟩ := hsent (catalogue []) ()
  have hresult : (listedItems.read .json (catalogue []) ()).1 = .ok { total := some 0 } := by
    decide +kernel
  refine ⟨itemRead_listedItems, addressesItems_listedItems, by decide +kernel, by decide +kernel,
    ?_⟩
  rw [hlog, hall _ hresult]
  refine hreads.and_mem.imp fun v r ⟨⟨hv, _⟩, hread⟩ => ?_
  rw [(hown nofun v hv).2 rfl] at hread
  exact hread

/-- The same two items, behind the condition that leaves another one out. -/
def excludedFirst : Query := itemQuery {} [notFive, listed [1, 2]]

/-- The item that is to be left out is read in the place of each of the others. -/
theorem sent_excludedFirst :
    ItemRead .json excludedFirst (laterPlan excludedFirst) "id" (.locally 1)
      (listed [1, 2]).markLocal [.int 1, .int 2] ∧
    (laterPlan excludedFirst).itemAddress? "id" (.int 1) = some "items/1" ∧
    (laterPlan excludedFirst).itemAddress? "id" (.int 2) = some "items/2" ∧
    (excludedFirst.read .json (catalogue []).logged ((), [])).2.2.map (·.uri) =
      ["items/5", "items/5"] :=
  ⟨itemRead_listed rfl rfl rfl (by decide +kernel), by decide +kernel⟩

end EntityQuery
