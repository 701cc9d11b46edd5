import EntityQuery.Proofs.NumberReading
import EntityQuery.Proofs.PageCount
import EntityQuery.Proofs.WrappedValue

/-!
# Counters that fail to be read

A text of digits is taken for a number, as a counter and as a place in a list on the way to one. But
some digits stand in no numeral, and numerals have a longest length (`IsStrayNumber`). Such a text
fails to be read; whatever else a counter holds, it is read as a number or as nothing
(`parseCount_ok_iff`). So a read whose window the service cuts fails exactly if it comes upon such a
text, and otherwise tells what the counter tells, or else what the service does when it is asked
(`counted_unless_stray`).
-/

namespace EntityQuery

open Number Text

/-- Digits that form no numeral: one of them has no value in a numeral, or they are too many. -/
def IsStrayNumber (cs : List Char) : Prop :=
  cs ≠ [] ∧ (∀ c ∈ cs, isDigit c = true) ∧
    ((∃ c ∈ cs, isDecimal c = false) ∨ maxDigits < cs.length)

theorem Text.isBlank_of_isDigit {c : Char} (h : isDigit c = true) : isBlank c = false := by
  have hapart : ∀ p ∈ plainDigitRanges, ∀ b ∈ blankRanges, p.2 < b.1 ∨ b.2 < p.1 := by
    decide +kernel
  rcases Bool.or_eq_true_iff.1 h with hdecimal | hplain
  · exact isBlank_of_isDecimal hdecimal
  · obtain ⟨p, hp, hlow, hhigh⟩ := inRanges_iff.1 hplain
    rw [isBlank, Bool.eq_false_iff]
    intro hblank
    obtain ⟨b, hb, hlow', hhigh'⟩ := inRanges_iff.1 hblank
    rcases hapart p hp b hb with hlt | hlt <;> omega

/-- A numeral holds decimal digits, and underscores between them. -/
theorem isDecimal_of_digitRun? {cs : List Char} {ds : List Nat} (h : digitRun? cs = some ds) :
    ∀ c ∈ cs, isDecimal c = true ∨ c = '_' := by
  have hdecimal {c : Char} {n : Nat} (hn : decimalValue? c = some n) : isDecimal c = true :=
    Option.isSome_of_eq_some hn
  fun_induction digitRun? cs generalizing ds with
  | case1 => cases h
  | case2 c =>
    obtain ⟨d, hd, -⟩ := Option.map_eq_some_iff.1 h
    exact List.forall_mem_singleton.2 (.inl (hdecimal hd))
  | case3 c r ih =>
    obtain ⟨d, hd, h⟩ := Option.bind_eq_some_iff.1 h
    obtain ⟨ds, hds, -⟩ := Option.bind_eq_some_iff.1 h
    exact List.forall_mem_cons.2 ⟨.inl (hdecimal hd), List.forall_mem_cons.2 ⟨.inr rfl, ih hds⟩⟩
  | case4 c r _ _ ih =>
    obtain ⟨d, hd, h⟩ := Option.bind_eq_some_iff.1 h
    obtain ⟨ds, hds, -⟩ := Option.bind_eq_some_iff.1 h
    exact List.forall_mem_cons.2 ⟨.inl (hdecimal hd), ih hds⟩

/-- Digits are read as an integer unless they form no numeral. -/
theorem isSome_integerOfChars?_of_digits {cs : List Char} (hne : cs ≠ [])
    (h : ∀ c ∈ cs, isDigit c = true) : (integerOfChars? cs).isSome ↔ ¬IsStrayNumber cs := by
  by_cases hdecimal : ∀ c ∈ cs, isDecimal c = true
  · have hread := isSome_integerOfChars?_iff (by decide : [] ∈ numeralSigns) ⟨hne, hdecimal⟩
    rw [List.nil_append] at hread
    rw [hread, ← Nat.not_lt, not_iff_not]
    refine ⟨fun hlong => ⟨hne, h, .inr hlong⟩, ?_⟩
    rintro ⟨-, -, ⟨c, hc, hnone⟩ | hlong⟩
    · cases hnone.symm.trans (hdecimal c hc)
    · exact hlong
  · push Not at hdecimal
    obtain ⟨c, hc, hnone⟩ := hdecimal
    have hstray : IsStrayNumber cs := ⟨hne, h, .inl ⟨c, hc, by simpa using hnone⟩⟩
    refine iff_of_false (fun hsome => ?_) (not_not.2 hstray)
    obtain ⟨n, hn⟩ := Option.isSome_iff_exists.1 hsome
    have hsign : takeSign cs = (false, cs) := by
      refine takeSign_of_head fun d hd => ?_
      have hdigit := h d (List.mem_of_mem_head? hd)
      constructor <;> rintro rfl <;> exact absurd hdigit (by decide)
    rw [integerOfChars?, trimMargins_of_forall fun d hd => isBlank_of_isDigit (h d hd), hsign] at hn
    obtain ⟨ds, hds, -⟩ := Option.bind_eq_some_iff.1 hn
    rcases isDecimal_of_digitRun? hds c hc with hdecimal | rfl
    · exact hnone hdecimal
    · exact absurd (h _ hc) (by decide)

theorem Container.isNumbered_iff {s : String} :
    isNumbered s = true ↔ s.toList ≠ [] ∧ ∀ c ∈ s.toList, isDigit c = true := by
  rw [isNumbered, Bool.and_eq_true, List.all_eq_true, Bool.not_eq_true',
    String.isEmpty_eq_false_iff, ne_eq, ne_eq, String.toList_eq_nil_iff]

/-- A counter that fails to be read: a text of digits that form no numeral, with or without blanks
around it. -/
def Value.IsStrayCounter (v : Value) : Prop := ∃ s, v = .str s ∧ IsStrayNumber (trim s).toList

theorem Value.isStrayCounter_str (s : String) :
    (Value.str s).IsStrayCounter ↔ IsStrayNumber (trim s).toList :=
  ⟨fun ⟨_, ht, h⟩ => Value.str.inj ht ▸ h, fun h => ⟨s, rfl, h⟩⟩

/-- A counter that is malformed is read as nothing, unless it is made of digits all the same. -/
theorem parseCount_ok_iff (v : Value) : (∃ n, parseCount v = .ok n) ↔ ¬v.IsStrayCounter := by
  cases v with
  | str s =>
    rw [Value.isStrayCounter_str, parseCount]
    by_cases hnumbered : Container.isNumbered (trim s) = true
    · obtain ⟨hne, hdigits⟩ := Container.isNumbered_iff.1 hnumbered
      rw [if_pos hnumbered, ← isSome_integerOfChars?_of_digits hne hdigits, integerOfText?]
      cases integerOfChars? (trim s).toList <;> simp
    · rw [if_neg hnumbered]
      exact iff_of_true ⟨none, rfl⟩ fun h => hnumbered (Container.isNumbered_iff.2 ⟨h.1, h.2.1⟩)
  | null | bool _ | int _ | float _ | list _ | map _ =>
    exact iff_of_true ⟨_, rfl⟩ (by rintro ⟨s, hs, -⟩; cases hs)

theorem parseCount_eq_none_iff (s : String) :
    parseCount (.str s) = .ok none ↔ Container.isNumbered (trim s) = false := by
  rw [parseCount]
  cases Container.isNumbered (trim s) with
  | false => simp
  | true => cases integerOfText? (trim s) <;> simp

namespace Path

variable {step : String} {names : List String}

/-- A list of names comes to a list with digits that form no numeral. -/
def MeetsStray (names : List String) (v : Value) : Prop :=
  ∃ before step after items, names = before ++ step :: after ∧
    findSteps before v = .ok (.list items) ∧ IsStrayNumber step.toList

theorem take_of_isName (h : IsName step) (hne : step ≠ "") (v : Value) :
    take v step = follow step v := by
  rw [take, Step.parse_of_isName h]
  cases hfollow : follow step v <;> simp [bind, Except.bind, pure, Except.pure, hne, hfollow]

theorem follow_ok_iff (hne : step ≠ "") (v : Value) :
    (∃ w, follow step v = .ok w) ↔ ∀ items, v = .list items → ¬IsStrayNumber step.toList := by
  cases v with
  | list items =>
    simp only [Value.list.injEq, forall_eq']
    rw [follow]
    by_cases hdigits : ∀ c ∈ step.toList, isDigit c = true
    · have hne : step.toList ≠ [] := fun h => hne (String.toList_eq_nil_iff.1 h)
      rw [if_pos (List.all_eq_true.2 hdigits), ← isSome_integerOfChars?_of_digits hne hdigits,
        integerOfText?]
      cases integerOfChars? step.toList <;> simp
    · rw [if_neg fun h => hdigits (List.all_eq_true.1 h)]
      exact iff_of_true ⟨_, rfl⟩ fun h => hdigits h.2.1
  | null | bool _ | int _ | float _ | str _ | map _ =>
    exact iff_of_true ⟨_, rfl⟩ (by rintro items ⟨⟩)

/-- Names lead to something, be it null, unless they come to a list with digits that form no
numeral. -/
theorem findSteps_ok_iff (hnames : ∀ step ∈ names, IsName step ∧ step ≠ "") (v : Value) :
    (∃ w, findSteps names v = .ok w) ↔ ¬MeetsStray names v := by
  induction names generalizing v with
  | nil =>
    refine iff_of_true ⟨v, rfl⟩ ?_
    rintro ⟨before, step, after, items, hnil, -⟩
    simp at hnil
  | cons step names ih =>
    rw [List.forall_mem_cons] at hnames
    by_cases hnull : v = .null
    · subst hnull
      refine iff_of_true ⟨_, findSteps_null _⟩ ?_
      rintro ⟨before, _, _, items, -, hlist, -⟩
      rw [findSteps_null] at hlist
      cases hlist
    have hfind (rest : List String) :
        findSteps (step :: rest) v = follow step v >>= findSteps rest := by
      rw [findSteps, take_of_isName hnames.1.1 hnames.1.2]
      exact hnull
    have hfollow := follow_ok_iff hnames.1.2 v
    cases hw : follow step v with
    | error fault =>
      rw [hfind, hw]
      obtain ⟨items, rfl, hstray⟩ : ∃ items, v = .list items ∧ IsStrayNumber step.toList := by
        simpa [hw] using hfollow
      exact iff_of_false (by rintro ⟨_, ⟨⟩⟩)
        (not_not.2 ⟨[], step, names, items, rfl, rfl, hstray⟩)
    | ok w =>
      rw [hfind, hw, Except.bind_of_ok _ rfl, ih hnames.2 w, not_iff_not]
      constructor
      · rintro ⟨before, stray, after, items, rfl, hlist, hstray⟩
        exact ⟨step :: before, stray, after, items, rfl, by rw [hfind, hw]; exact hlist, hstray⟩
      · rintro ⟨before, stray, after, items, hsplit, hlist, hstray⟩
        cases before with
        | nil =>
          obtain ⟨rfl, rfl⟩ := List.cons.inj hsplit
          cases hlist
          exact absurd hstray (hfollow.1 ⟨w, hw⟩ items rfl)
        | cons name before =>
          obtain ⟨rfl, rfl⟩ := List.cons.inj hsplit
          rw [hfind, hw] at hlist
          exact ⟨before, stray, after, items, rfl, hlist, hstray⟩

end Path

namespace Body

variable {d : Dialect} {e : Entity}

/-- A body has no counter that fails to be read, and none on the way to it. -/
def ReadsCounter (d : Dialect) (e : Entity) (v : Value) : Prop :=
  ∀ path ∈ countPath? d e, ¬Path.MeetsStray (Path.steps path) v ∧
    ∀ w, Path.find v path = .ok w → ¬w.IsStrayCounter

theorem count_of_path {path : String} (hpath : countPath? d e = some path) (v : Value) :
    (Body.data v).count d e = ((Path.find v path).mapError Error.path >>= fun w =>
      (parseCount w).mapError Error.malformed) := by
  unfold count
  rw [hpath]
  cases v with
  | null =>
    rw [Path.find, Path.findSteps_null]
    rfl
  | bool _ | int _ | float _ | str _ | list _ | map _ =>
    dsimp only
    cases Path.find _ path with
    | error fault => rfl
    | ok w =>
      refine (Except.bind_of_ok _ rfl).trans ?_
      cases hparse : parseCount w <;> simp [bind, Except.bind, Except.mapError, hparse] <;> rfl

theorem count_ok_iff (hnames : ∀ path ∈ countPath? d e, ∀ step ∈ Path.steps path, Path.IsName step)
    (v : Value) : (∃ n, (Body.data v).count d e = .ok n) ↔ ReadsCounter d e v := by
  unfold ReadsCounter
  cases hpath : countPath? d e with
  | none =>
    refine iff_of_true ⟨none, ?_⟩ nofun
    unfold count
    rw [hpath]
    cases v <;> rfl
  | some path =>
    have hsteps : ∀ step ∈ Path.steps path, Path.IsName step ∧ step ≠ "" := fun step hstep =>
      ⟨hnames path hpath step hstep, Path.ne_empty_of_mem_steps hstep⟩
    have hfind := Path.findSteps_ok_iff hsteps v
    simp only [Option.mem_some_iff, forall_eq', count_of_path hpath, Except.bind_eq_ok_iff,
      Except.mapError_eq_ok_iff, ← hfind, ← parseCount_ok_iff]
    constructor
    · rintro ⟨n, w, hw, hn⟩
      refine ⟨⟨w, hw⟩, fun w' hw' => ?_⟩
      cases hw.symm.trans hw'
      exact ⟨n, hn⟩
    · rintro ⟨⟨w, hw⟩, hread⟩
      obtain ⟨n, hn⟩ := hread w hw
      exact ⟨n, w, hw, hn⟩

/-- What is told about the number of rows: by the counter of a body, and where it holds none by the
text that answers the request for the number. -/
def told (d : Dialect) (e : Entity) (v : Value) (text : String) : Except Error (Option Int) := do
  match ← (Body.data v).count d e with
  | some n => pure (some n)
  | none => (parseCount (.str text)).mapError Error.malformed

end Body

namespace Plan

variable {σ : Type} {d : Dialect} {p : Plan} {t : Transport σ} {s s' : σ} {request asked : Request}
  {e : Error}

theorem fetch?_of_uncounted {answer : Response} {body : Body} {rows : List Row}
    (hr : p.readRequest? d = .ok (some request)) (hsend : t.send request s = (.ok answer, s'))
    (hbody : Body.ofResponse d answer = .ok body) (hrows : body.rows d p.query false = .ok rows)
    (hcount : body.count d p.entity = .error e) : p.fetch? d t false s = (.error e, s') := by
  rw [fetch?, Exchange.lift_bind_of_ok _ hr]
  show (t.send request >>= _) s = _
  rw [Exchange.bind_of_ok _ hsend, Exchange.lift_bind_of_ok _ hbody,
    Exchange.lift_bind_of_ok _ hrows, hcount]
  rfl

theorem askCount_of_answer {counted : Response} (hasked : p.countRequest? d request = some asked)
    (hsend : t.send asked s = (.ok counted, s')) : p.askCount d t request s =
      ((parseCount (.str counted.text)).mapError Error.malformed, s') := by
  rw [askCount, hasked]
  refine (Exchange.bind_of_ok _
    (Exchange.tryCatch_of_ok _ (Exchange.map_of_ok some hsend))).trans ?_
  dsimp only
  cases parseCount (.str counted.text) <;> rfl

/-- The number of rows of a window is what its counter tells, or else what the service does. -/
theorem remoteWindow_of_outcome (first : Fetched) (t : Transport σ)
    (hextra : d.readsExtraRow p.options p.query.limit = false)
    (hwindow : 0 < p.query.limit ∨ 0 < p.query.offset) {outcome : Except Error (Option Int)}
    (hcount : (match first.count with
      | some n => pure (some n)
      | none => p.askCount d t first.request : Exchange σ (Option Int)) s = (outcome, s')) :
    p.remoteWindow d t first first.rows s = (outcome.map fun total =>
      { rows := first.rows, total := total,
        hasMore := total.any fun n => p.query.offset + first.rows.length < n }, s') := by
  have hasks : (decide (0 < p.query.limit) || decide (0 < p.query.offset)) = true := by
    simpa using hwindow
  unfold remoteWindow
  simp only [hextra, Bool.false_eq_true, if_false, hasks, Bool.and_true]
  cases hinline : first.count with
  | some n =>
    rw [hinline] at hcount
    cases hcount
    rfl
  | none =>
    rw [hinline] at hcount
    dsimp only at hcount
    rw [if_pos Option.isNone_none, Exchange.bind_pure_apply, hcount]
    cases outcome with
    | error e => rfl
    | ok total => cases total <;> rfl

/-- A window that is told nothing about the number of rows is the last one if it is short. -/
theorem exists_run_of_total (hremotely : p.pagesRemotely d = .ok true) {first : Fetched}
    (hfetch : fetchAll d t false [p] s = (.ok [first], s')) {n : Option Int} {s'' : σ}
    (hwindow : p.remoteWindow d t first first.rows s' = (.ok
      { rows := first.rows, total := n,
        hasMore := n.any fun total => p.query.offset + first.rows.length < total }, s'')) :
    ∃ result, p.run d t s = (.ok result, s'') ∧
      result.total = n.or (if p.query.limit = 0 ∨ result.rows.length < p.query.limit then
        some (p.query.offset + result.rows.length) else none) := by
  refine ⟨_, run_of_window hremotely hfetch hwindow, ?_⟩
  rw [total_closeWindow, rows_closeWindow]
  cases n <;> simp

end Plan

/-- A read whose window the service cuts, without a row beyond it. The service hands over a page of
rows, and a text when it is asked for their number. -/
structure AskedPage {σ : Type} (d : Dialect) (q : Query) (p : Plan) (t : Transport σ) (s : σ)
    (page : Value) (text : String) : Prop where
  divided : Plan.of d q = .ok p
  remotely : p.pagesRemotely d = .ok true
  windowed : 0 < q.limit ∨ 0 < q.offset
  unextended : d.readsExtraRow q.entity.options q.limit = false
  answered : ∃ request asked answer counted rows s₁ s₂, p.readRequest? d = .ok (some request) ∧
    t.send request s = (.ok answer, s₁) ∧ Body.ofResponse d answer = .ok (.data page) ∧
    (Body.data page).rows d p.query false = .ok rows ∧ p.countRequest? d request = some asked ∧
    t.send asked s₁ = (.ok counted, s₂) ∧ counted.text = text

/-- A read fails as what is told about the number of rows does. If that is nothing, the total is
unknown, unless the page is the last one because it is short. -/
theorem AskedPage.read_eq {σ : Type} {d : Dialect} {q : Query} {p : Plan} {t : Transport σ} {s : σ}
    {page : Value} {text : String} (h : AskedPage d q p t s page text) :
    (∃ e s', Body.told d q.entity page text = .error e ∧ q.read d t s = (.error e, s')) ∨
    ∃ n result s', Body.told d q.entity page text = .ok n ∧ q.read d t s = (.ok result, s') ∧
      result.total = n.or (if q.limit = 0 ∨ result.rows.length < q.limit then
        some (q.offset + result.rows.length) else none) := by
  obtain ⟨hp, hremotely, hwindow, hextra, request, asked, answer, counted, rows, s₁, s₂, hr, hsend,
    hbody, hrows, hasked, hcounted, rfl⟩ := h
  obtain ⟨ho, hl⟩ := Plan.query_window_eq hp
  obtain ⟨-, -, -, hitem⟩ := Plan.pagesRemotely_eq_true hremotely
  rw [← ho, ← hl] at hwindow
  rw [← Plan.options_eq hp, ← hl] at hextra
  rw [← Plan.entity_eq hp, Query.read, Exchange.lift_bind_of_ok _ hp, ← ho, ← hl]
  unfold Body.told
  cases hcount : (Body.data page).count d p.entity with
  | error e =>
    exact .inl ⟨e, s₁, rfl,
      Plan.run_of_unfetched hitem hremotely (Plan.fetch?_of_uncounted hr hsend hbody hrows hcount)⟩
  | ok inline =>
    have hfetch := Plan.fetchAll_of_answer hr hsend hbody hrows hcount
    cases inline with
    | some n =>
      have htold : (pure (some n) : Exchange σ (Option Int)) s₁ = (.ok (some n), s₁) := rfl
      have hcut := Plan.remoteWindow_of_outcome ⟨request, rows, some n⟩ t hextra hwindow htold
      obtain ⟨result, hrun, htotal⟩ := Plan.exists_run_of_total hremotely hfetch hcut
      exact .inr ⟨some n, result, s₁, rfl, hrun, htotal⟩
    | none =>
      have hcut := Plan.remoteWindow_of_outcome ⟨request, rows, none⟩ t hextra hwindow
        (Plan.askCount_of_answer hasked hcounted)
      cases hparse : parseCount (.str counted.text) with
      | ok n =>
        rw [hparse] at hcut
        obtain ⟨result, hrun, htotal⟩ := Plan.exists_run_of_total hremotely hfetch hcut
        exact .inr ⟨n, result, s₂, rfl, hrun, htotal⟩
      | error m =>
        rw [hparse] at hcut
        refine .inl ⟨.malformed m, s₂, rfl, ?_⟩
        rw [Plan.run_of_fetched hitem hremotely hfetch, if_pos rfl]
        exact Exchange.bind_of_error _ hcut

/-- A counter is read, as a number or as nothing, unless it is made of digits that form no numeral,
or such digits lead to it. The same holds of a text that answers the request for the number of rows.
A read whose window the service cuts fails with its counters and no others: where the counter beside
the rows is nothing, the number is what the service tells when it is asked. -/
theorem counted_unless_stray {d : Dialect} {e : Entity}
    (hnames : ∀ path ∈ Body.countPath? d e, ∀ step ∈ Path.steps path, Path.IsName step)
    (page : Value) :
    ((∃ n, (Body.data page).count d e = .ok n) ↔ Body.ReadsCounter d e page) ∧
    (∀ v : Value, (∃ n, parseCount v = .ok n) ↔ ¬v.IsStrayCounter) ∧
    (∀ text, parseCount (.str text) = .ok none ↔ Container.isNumbered (trim text) = false) ∧
    ∀ (σ : Type) (q : Query) (p : Plan) (t : Transport σ) (s : σ) (text : String), q.entity = e →
      AskedPage d q p t s page text →
      ((∃ result s', q.read d t s = (.ok result, s')) ↔ Body.ReadsCounter d e page ∧
        ((Body.data page).count d e = .ok none → ¬(Value.str text).IsStrayCounter)) ∧
      ∀ result s', q.read d t s = (.ok result, s') → (Body.data page).count d e = .ok none →
        ∃ n, parseCount (.str text) = .ok n ∧
          result.total = n.or (if q.limit = 0 ∨ result.rows.length < q.limit then
            some (q.offset + result.rows.length) else none) := by
  have hcount := Body.count_ok_iff hnames page
  refine ⟨hcount, parseCount_ok_iff, parseCount_eq_none_iff, ?_⟩
  rintro σ q p t s text rfl h
  rw [← hcount, ← parseCount_ok_iff]
  rcases h.read_eq with ⟨fault, s₁, htold, hread⟩ | ⟨n, found, s₁, htold, hread, htotal⟩
  · rw [hread]
    refine ⟨iff_of_false (by rintro ⟨_, _, ⟨⟩⟩) ?_, by rintro _ _ ⟨⟩⟩
    rintro ⟨⟨inline, hinline⟩, hasked⟩
    rw [Body.told, Except.bind_of_ok _ hinline] at htold
    cases inline with
    | some n => cases htold
    | none =>
      obtain ⟨n, hn⟩ := hasked hinline
      rw [hn] at htold
      cases htold
  · obtain ⟨inline, hinline, htold⟩ := Except.bind_eq_ok_iff.1 htold
    rw [hread, hinline]
    refine ⟨iff_of_true ⟨found, s₁, rfl⟩ ⟨⟨inline, rfl⟩, ?_⟩, ?_⟩
    · rintro ⟨⟩
      exact ⟨n, Except.mapError_eq_ok_iff.1 htold⟩
    · rintro result s' ⟨⟩ ⟨⟩
      exact ⟨n, Except.mapError_eq_ok_iff.1 htold, htotal⟩

/-- A service that hands over the same page every time, and a text when it is asked for the number
of rows. -/
def countingService (page : Value) (text : String) : Transport Unit where
  baseUrl := ""
  send r :=
    if r.headers = [("Accept", "text/plain")] then pure { text := text }
    else pure { text := Json.write Json.compact page }
  freshName := pure ""

def miscountedPage (counter : String) : Value :=
  .map [("@odata.count", .str counter), ("value", pageOf [2, 3])]

theorem askedPage_items {counter text : String} {page : Value}
    (hpage : page = miscountedPage counter)
    (hbody : Body.ofResponse .odata4 { text := Json.write Json.compact page } = .ok (.data page)) :
    AskedPage .odata4 (itemsPage {} 1 2) (itemsPagePlan {} 1 2) (countingService page text) () page
      text where
  divided := rfl
  remotely := rfl
  windowed := .inr (by decide)
  unextended := rfl
  answered := by
    subst hpage
    exact ⟨.withParams "GET" "items" [("$skip", some "1"), ("$top", some "2"),
        ("$count", some "true")] Dialect.odata4.readHeaders, _, _, _, itemRows [2, 3], (), (),
      by decide +kernel, rfl, hbody, rfl, rfl, rfl, rfl⟩

/-- A counter that is no number is asked for. -/
theorem counted_unless_stray_items :
    (∀ path ∈ Body.countPath? .odata4 (itemsPage {} 1 2).entity, ∀ step ∈ Path.steps path,
      Path.IsName step) ∧
    (Body.data (miscountedPage "12a")).count .odata4 (itemsPage {} 1 2).entity = .ok none ∧
    ∃ result s', (itemsPage {} 1 2).read .odata4
      (countingService (miscountedPage "12a") " 5\n") () = (.ok result, s') ∧
      result.total = some 5 := by
  have hnames : ∀ path ∈ Body.countPath? .odata4 (itemsPage {} 1 2).entity,
      ∀ step ∈ Path.steps path, Path.IsName step := by decide +kernel
  have hcount : (Body.data (miscountedPage "12a")).count .odata4 (itemsPage {} 1 2).entity =
      .ok none := by decide +kernel
  have htext : parseCount (.str " 5\n") = .ok (some 5) := by decide +kernel
  obtain ⟨hreads, hcounters, -, hread⟩ := counted_unless_stray hnames (miscountedPage "12a")
  obtain ⟨hends, htotal⟩ := hread Unit (itemsPage {} 1 2) _ _ () " 5\n" rfl
    (askedPage_items rfl (by decide +kernel))
  obtain ⟨result, s', hresult⟩ := hends.2
    ⟨hreads.1 ⟨none, hcount⟩, fun _ => (hcounters _).1 ⟨some 5, htext⟩⟩
  obtain ⟨n, hn, hn'⟩ := htotal result s' hresult hcount
  refine ⟨hnames, hcount, result, s', hresult, hn'.trans ?_⟩
  rw [Except.ok.inj (hn.symm.trans htext)]
  rfl

/-- A superscript is a digit that stands in no numeral. As a counter, on the way to one or as the
answer to the request for the number of rows it fails to be read, and a read with it. -/
theorem counted_superscript :
    parseCount (.str "²") = .error .number ∧
    (Body.data (.map [("pages", .list [.int 5])])).count .json
      { name := "items", dataAddress := "items", attributes := [],
        options := { responseTotalCountPath := some "pages/²" } } =
      .error (.path (.index "²")) ∧
    ((itemsPage {} 1 2).read .odata4 (countingService (miscountedPage "²") "5") ()).1 =
      .error (.malformed .number) ∧
    ((itemsPage {} 1 2).read .odata4 (countingService (miscountedPage "") "²") ()).1 =
      .error (.malformed .number) := by
  decide +kernel

end EntityQuery
