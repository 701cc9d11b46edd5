import EntityQuery.Proofs.FilterSplit
import EntityQuery.Remote.Expression

/-!
# Reading expressions back

A printed chain as tokens, and everything that can be read from tokens by a grammar without any
precedence: the operand of an operator is whatever can be read on that side of it. Parentheses keep
nested chains together (`Primary`), and a chain outside of parentheses holds one operator, which is
associative; so all that can be read from a chain has one value (`Reads.value_tokensFrom`).
-/

namespace EntityQuery

/-- A part of a printed expression. A predicate carries its number among those of the
expression. -/
inductive Token where
  | predicate (number : Nat) (text : String)
  | operator (op : LogicalOperator)
  | opening
  | closing

namespace Token

/-- The token as it is printed. -/
def text : Token → String
  | predicate _ s => s
  | operator op => Chain.joiner op
  | opening => "("
  | closing => ")"

/-- The printed tokens. -/
def print : List Token → String
  | [] => ""
  | t :: ts => t.text ++ print ts

/-- The predicates among tokens, with their numbers. -/
def predicates : List Token → List (String × Nat)
  | [] => []
  | .predicate n s :: ts => (s, n) :: predicates ts
  | _ :: ts => predicates ts

theorem print_append (ts us : List Token) : print (ts ++ us) = print ts ++ print us := by
  induction ts with
  | nil => rw [List.nil_append, print, String.empty_append]
  | cons t ts ih => rw [List.cons_append, print, print, ih, String.append_assoc]

theorem predicates_append (ts us : List Token) :
    predicates (ts ++ us) = predicates ts ++ predicates us := by
  induction ts with
  | nil => rfl
  | cons t ts ih => cases t <;> simp only [List.cons_append, predicates, ih]

theorem print_intercalate (op : LogicalOperator) (pieces : List (List Token)) :
    print ([.operator op].intercalate pieces) =
      Text.join (Chain.joiner op) (pieces.map print) := by
  induction pieces with
  | nil => rfl
  | cons p pieces ih =>
    cases pieces with
    | nil => rw [List.intercalate_singleton, List.map_singleton, Text.join,
        String.intercalate_singleton]
    | cons q pieces =>
      have hop : print [.operator op] = Chain.joiner op := String.append_empty
      simp only [List.intercalate_cons_cons, print_append, ih, hop, List.map_cons, Text.join,
        String.intercalate_cons_cons]

theorem predicates_intercalate (op : LogicalOperator) (pieces : List (List Token)) :
    predicates ([.operator op].intercalate pieces) = (pieces.map predicates).flatten := by
  induction pieces with
  | nil => rfl
  | cons p pieces ih =>
    cases pieces with
    | nil => rw [List.intercalate_singleton, List.map_singleton, List.flatten_singleton]
    | cons q pieces =>
      have hop : predicates [.operator op] = [] := rfl
      simp only [List.intercalate_cons_cons, predicates_append, ih, hop, List.append_nil,
        List.map_cons, List.flatten_cons]

end Token

namespace Chain

mutual

/-- The predicates of a chain, in order. -/
def leaves : Chain → List (Condition × String)
  | .predicate c s => [(c, s)]
  | .joined _ ms => memberLeaves ms

/-- The predicates of chains, in order. -/
def memberLeaves : List Chain → List (Condition × String)
  | [] => []
  | m :: ms => m.leaves ++ memberLeaves ms

end

mutual

/-- The tokens of a member of a chain, predicates numbered from `start`. -/
def pieceFrom (start : Nat) : Chain → List Token
  | .predicate _ s => [.predicate start s]
  | .joined op ms => .opening :: [.operator op].intercalate (piecesFrom start ms) ++ [.closing]

/-- The tokens of every member of a chain, predicates numbered from `start`. -/
def piecesFrom (start : Nat) : List Chain → List (List Token)
  | [] => []
  | m :: ms => m.pieceFrom start :: piecesFrom (start + m.leaves.length) ms

end

/-- The tokens of a chain, predicates numbered from `start`. -/
def tokensFrom (start : Nat) : Chain → List Token
  | .predicate _ s => [.predicate start s]
  | .joined op ms => [.operator op].intercalate (piecesFrom start ms)

mutual

/-- The value of a chain where `v` gives those of predicates by number. -/
def valueFrom (v : Nat → Bool) (start : Nat) : Chain → Bool
  | .predicate _ _ => v start
  | .joined op ms => op.combine (valuesFrom v start ms)

/-- The values of chains where `v` gives those of predicates by number. -/
def valuesFrom (v : Nat → Bool) (start : Nat) : List Chain → List Bool
  | [] => []
  | m :: ms => m.valueFrom v start :: valuesFrom v (start + m.leaves.length) ms

end

/-- A chain without an exclusive or and without a join of nothing. -/
inductive Proper : Chain → Prop
  | predicate (c : Condition) (s : String) : Proper (.predicate c s)
  | joined {op : LogicalOperator} {ms : List Chain} (hop : op ≠ .xor) (hne : ms ≠ [])
      (hms : ∀ m ∈ ms, Proper m) : Proper (.joined op ms)

theorem memberTexts_cons (m : Chain) (ms : List Chain) :
    memberTexts (m :: ms) = memberTexts [m] ++ memberTexts ms := by
  cases m <;> simp only [memberTexts, List.singleton_append]

mutual

theorem print_pieceFrom (start : Nat) : ∀ m : Chain,
    [Token.print (m.pieceFrom start)] = memberTexts [m]
  | .predicate _ s => by
    rw [memberTexts, memberTexts]
    exact congrArg (fun r => [r]) String.append_empty
  | .joined op ms => by
    rw [memberTexts, memberTexts, pieceFrom, List.cons_append, Token.print, Token.print_append,
      Token.print_intercalate, print_piecesFrom start ms]
    exact congrArg (fun r => [r]) (String.append_assoc ..).symm

theorem print_piecesFrom (start : Nat) : ∀ ms : List Chain,
    (piecesFrom start ms).map Token.print = memberTexts ms
  | [] => memberTexts.eq_1.symm
  | m :: ms => by
    rw [memberTexts_cons, ← print_pieceFrom start m, piecesFrom, List.map_cons,
      print_piecesFrom _ ms, List.singleton_append]

end

/-- A chain prints its tokens. -/
theorem print_tokensFrom (start : Nat) (chain : Chain) :
    Token.print (chain.tokensFrom start) = chain.text := by
  cases chain with
  | predicate c s => exact String.append_empty
  | joined op ms => rw [tokensFrom, Token.print_intercalate, print_piecesFrom, text]

mutual

theorem predicates_pieceFrom (start : Nat) : ∀ m : Chain,
    Token.predicates (m.pieceFrom start) = (m.leaves.map Prod.snd).zipIdx start
  | .predicate _ s => rfl
  | .joined op ms => by
    have hopening (ts : List Token) : Token.predicates (.opening :: ts) = Token.predicates ts := rfl
    have hclosing : Token.predicates [.closing] = [] := rfl
    rw [pieceFrom, List.cons_append, hopening, Token.predicates_append, hclosing, List.append_nil,
      Token.predicates_intercalate, predicates_piecesFrom start ms, leaves]

/-- The predicates of members are numbered through. -/
theorem predicates_piecesFrom (start : Nat) : ∀ ms : List Chain,
    ((piecesFrom start ms).map Token.predicates).flatten =
      ((memberLeaves ms).map Prod.snd).zipIdx start
  | [] => rfl
  | m :: ms => by
    rw [piecesFrom, List.map_cons, List.flatten_cons, predicates_pieceFrom start m,
      predicates_piecesFrom _ ms, memberLeaves, List.map_append, List.zipIdx_append,
      List.length_map]

end

theorem predicates_tokensFrom (start : Nat) (chain : Chain) :
    Token.predicates (chain.tokensFrom start) = (chain.leaves.map Prod.snd).zipIdx start := by
  cases chain with
  | predicate c s => rfl
  | joined op ms => rw [tokensFrom, Token.predicates_intercalate, predicates_piecesFrom, leaves]

end Chain

namespace Token

/-- What a token adds to the number of open parentheses. -/
def height : Token → Int
  | predicate _ _ => 0
  | operator _ => 0
  | opening => 1
  | closing => -1

/-- The parentheses that tokens leave open. -/
def depth : List Token → Int
  | [] => 0
  | t :: ts => t.height + depth ts

theorem depth_append (ts us : List Token) : depth (ts ++ us) = depth ts + depth us := by
  induction ts with
  | nil => rw [List.nil_append, depth, Int.zero_add]
  | cons t ts ih => rw [List.cons_append, depth, depth, ih, Int.add_assoc]

/-- Every parenthesis is closed, and none before it is opened. -/
structure Balanced (ts : List Token) : Prop where
  depth_eq : depth ts = 0
  nonneg : ∀ us, us <+: ts → 0 ≤ depth us

/-- Tokens that stay together: no operator stands outside of parentheses. -/
structure Primary (ts : List Token) : Prop where
  balanced : Balanced ts
  inside : ∀ ls op rs, ts = ls ++ .operator op :: rs → depth ls ≠ 0

theorem balanced_singleton {t : Token} (h : t.height = 0) : Balanced [t] := by
  have hdepth : depth [t] = 0 := by rw [depth, depth, h, Int.add_zero]
  refine ⟨hdepth, fun us hus => ?_⟩
  rcases List.prefix_concat_iff.1 (show us <+: [] ++ [t] from hus) with rfl | hus
  · exact Int.le_of_eq hdepth.symm
  · rw [List.prefix_nil.1 hus]
    exact Int.le_refl _

theorem Balanced.append {ts us : List Token} (hts : Balanced ts) (hus : Balanced us) :
    Balanced (ts ++ us) := by
  refine ⟨by rw [depth_append, hts.depth_eq, hus.depth_eq, Int.add_zero], ?_⟩
  rintro ws ⟨rest, h⟩
  rcases List.append_eq_append_iff.1 h with ⟨as, rfl, -⟩ | ⟨bs, rfl, hbs⟩
  · exact hts.nonneg _ (List.prefix_append ..)
  · rw [depth_append, hts.depth_eq, Int.zero_add]
    exact hus.nonneg _ ⟨rest, hbs.symm⟩

/-- What is in parentheses is closed when they are. -/
theorem Balanced.enclosed {ts : List Token} (h : Balanced ts) :
    Primary (.opening :: ts ++ [.closing]) := by
  have hinner (us : List Token) (hus : us <+: ts) : 0 < depth (.opening :: us) := by
    have := h.nonneg us hus
    rw [depth, height]
    omega
  have hall : depth (.opening :: ts ++ [.closing]) = 0 := by
    rw [depth_append, depth, depth, depth, height, height, h.depth_eq]
    rfl
  refine ⟨⟨hall, fun us hus => ?_⟩, fun ls op rs heq => ?_⟩
  · rcases List.prefix_concat_iff.1 hus with rfl | hus
    · exact Int.le_of_eq hall.symm
    rcases List.prefix_cons_iff.1 hus with rfl | ⟨vs, rfl, hvs⟩
    · exact Int.le_refl _
    · exact Int.le_of_lt (hinner vs hvs)
  · have hprefix : ls ++ [.operator op] <+: .opening :: ts ++ [.closing] :=
      ⟨rs, by rw [heq, List.append_assoc, List.singleton_append]⟩
    rcases List.prefix_concat_iff.1 hprefix with heq | hprefix
    · cases (List.append_inj' heq rfl).2
    rcases List.prefix_cons_iff.1 ((List.prefix_append ..).trans hprefix) with rfl | ⟨vs, rfl, hvs⟩
    · obtain ⟨rest, hrest⟩ := hprefix
      cases hrest
    · exact Int.ne_of_gt (hinner vs hvs)

theorem primary_predicate (n : Nat) (s : String) : Primary [.predicate n s] := by
  refine ⟨balanced_singleton rfl, fun ls op rs h => ?_⟩
  cases ls with
  | nil => cases h
  | cons t ls => cases ls <;> cases h

/-- An operator outside of the parentheses of joined pieces stands between two of them. -/
theorem exists_of_intercalate_eq {op op' : LogicalOperator} {ls rs : List Token}
    {pieces : List (List Token)} (hp : ∀ p ∈ pieces, Primary p) (hdepth : depth ls = 0)
    (h : [.operator op].intercalate pieces = ls ++ .operator op' :: rs) :
    ∃ left right, pieces = left ++ right ∧ left ≠ [] ∧ right ≠ [] ∧
      ls = [.operator op].intercalate left ∧ rs = [.operator op].intercalate right ∧ op' = op := by
  induction pieces generalizing ls with
  | nil => cases ls <;> cases h
  | cons p pieces ih =>
    rw [List.forall_mem_cons] at hp
    cases pieces with
    | nil =>
      rw [List.intercalate_singleton] at h
      exact absurd hdepth (hp.1.inside ls op' rs h)
    | cons q pieces =>
      rw [List.intercalate_cons_cons, List.append_assoc, List.singleton_append] at h
      have hhere (hls : ls = p) (hrest : .operator op :: [.operator op].intercalate (q :: pieces) =
          .operator op' :: rs) : ∃ left right, p :: q :: pieces = left ++ right ∧ left ≠ [] ∧
            right ≠ [] ∧ ls = [.operator op].intercalate left ∧
            rs = [.operator op].intercalate right ∧ op' = op := by
        cases hrest
        exact ⟨[p], q :: pieces, rfl, List.cons_ne_nil _ _, List.cons_ne_nil _ _,
          hls.trans List.intercalate_singleton.symm, rfl, rfl⟩
      rcases List.append_eq_append_iff.1 h with ⟨as, hls, hcut⟩ | ⟨bs, hpiece, hcut⟩
      · cases as with
        | nil => exact hhere (hls.trans (List.append_nil _)) hcut
        | cons a as =>
          obtain ⟨rfl, hafter⟩ := List.cons.inj hcut
          have hrest : depth as = 0 := by
            rwa [hls, depth_append, hp.1.balanced.depth_eq, Int.zero_add, depth, height,
              Int.zero_add] at hdepth
          obtain ⟨left, right, hq, hleft, hright, rfl, hrs, hop⟩ := ih hp.2 hrest hafter
          refine ⟨p :: left, right, by rw [hq, List.cons_append], List.cons_ne_nil _ _, hright, ?_,
            hrs, hop⟩
          rw [hls, List.intercalate_cons_of_ne_nil hleft, List.append_assoc, List.singleton_append]
      · cases bs with
        | nil => exact hhere (hpiece.trans (List.append_nil _)).symm hcut.symm
        | cons b bs =>
          obtain ⟨rfl, -⟩ := List.cons.inj hcut
          exact absurd hdepth (hp.1.inside ls op' bs hpiece)

/-- Operators that no parenthesis keeps apart are the same. -/
def SingleOperator (ts : List Token) : Prop :=
  ∀ ls op ms op' rs, ts = ls ++ .operator op :: (ms ++ .operator op' :: rs) → Balanced ms →
    op' = op

theorem singleOperator_predicate (n : Nat) (s : String) : SingleOperator [.predicate n s] := by
  intro ls op ms op' rs h
  cases ls with
  | nil => cases h
  | cons t ls => cases ls <;> cases h

theorem SingleOperator.enclosed {ts : List Token} (h : SingleOperator ts) :
    SingleOperator (.opening :: ts ++ [.closing]) := by
  intro ls op ms op' rs heq hms
  cases ls with
  | nil => cases heq
  | cons t ls =>
    have heq : ts ++ [.closing] = ls ++ .operator op :: (ms ++ .operator op' :: rs) :=
      (List.cons.inj heq).2
    have hprefix : ls ++ .operator op :: ms ++ [.operator op'] <+: ts ++ [.closing] :=
      ⟨rs, by simp only [heq, List.append_assoc, List.cons_append, List.nil_append]⟩
    rcases List.prefix_concat_iff.1 hprefix with hlast | ⟨rest, hrest⟩
    · cases (List.append_inj' hlast rfl).2
    · refine h ls op ms op' rest ?_ hms
      simp only [← hrest, List.append_assoc, List.cons_append, List.nil_append]

theorem SingleOperator.of_enclosed {ts : List Token}
    (h : SingleOperator (.opening :: ts ++ [.closing])) : SingleOperator ts := by
  rintro ls op ms op' rs rfl hms
  refine h (.opening :: ls) op ms op' (rs ++ [.closing]) ?_ hms
  simp only [List.append_assoc, List.cons_append]

/-- A piece that holds one of two operators holds both, or a parenthesis keeps them apart. -/
theorem singleOperator_intercalate {op₀ : LogicalOperator} {pieces : List (List Token)}
    (hp : ∀ p ∈ pieces, Primary p ∧ SingleOperator p) :
    SingleOperator ([.operator op₀].intercalate pieces) := by
  induction pieces with
  | nil =>
    intro ls op ms op' rs h
    cases ls <;> cases h
  | cons p pieces ih =>
    rw [List.forall_mem_cons] at hp
    cases pieces with
    | nil =>
      rw [List.intercalate_singleton]
      exact hp.1.2
    | cons q pieces =>
      intro ls op ms op' rs h hms
      rw [List.intercalate_cons_cons, List.append_assoc, List.singleton_append] at h
      have hall : ∀ p ∈ q :: pieces, Primary p := fun p hq => (hp.2 p hq).1
      have hhere (hrest : [.operator op₀].intercalate (q :: pieces) = ms ++ .operator op' :: rs) :
          op' = op₀ := by
        obtain ⟨-, -, -, -, -, -, -, hop⟩ := exists_of_intercalate_eq hall hms.depth_eq hrest
        exact hop
      rcases List.append_eq_append_iff.1 h with ⟨as, hls, hcut⟩ | ⟨bs, hpiece, hcut⟩
      · cases as with
        | nil =>
          obtain ⟨hop, hrest⟩ := List.cons.inj hcut
          cases hop
          exact hhere hrest
        | cons a as => exact ih hp.2 as op ms op' rs (List.cons.inj hcut).2 hms
      · cases bs with
        | nil =>
          obtain ⟨hop, hrest⟩ := List.cons.inj hcut
          cases hop
          exact hhere hrest.symm
        | cons b bs =>
          obtain ⟨rfl, hrest⟩ := List.cons.inj hcut
          have hopen : 0 < depth ls := by
            have hne := hp.1.1.inside ls op bs hpiece
            have hle := hp.1.1.balanced.nonneg ls ⟨_, hpiece.symm⟩
            omega
          have hbs : depth bs < 0 := by
            have hpd := hp.1.1.balanced.depth_eq
            rw [hpiece, depth_append, depth, height] at hpd
            omega
          rcases List.append_eq_append_iff.1 hrest with ⟨cs, rfl, hsecond⟩ | ⟨cs, rfl, -⟩
          · cases cs with
            | nil => exact absurd hms.depth_eq (by rw [List.append_nil] at hbs; omega)
            | cons c cs =>
              obtain ⟨rfl, -⟩ := List.cons.inj hsecond
              exact hp.1.2 ls op ms op' cs hpiece hms
          · exact absurd (hms.nonneg bs (List.prefix_append ..)) (Int.not_le.2 hbs)

end Token

/-- A formula over numbered predicates. -/
inductive Formula where
  | predicate (number : Nat)
  | joined (op : LogicalOperator) (left right : Formula)

/-- The value of a formula where `v` gives those of predicates by number. -/
def Formula.value (v : Nat → Bool) : Formula → Bool
  | predicate n => v n
  | joined op l r => op.combine [l.value v, r.value v]

/-- The formulas that can be read from tokens. No operator binds tighter than another, and a chain
can be read from either end. -/
inductive Reads : List Token → Formula → Prop
  | predicate (n : Nat) (s : String) : Reads [.predicate n s] (.predicate n)
  | enclosed {ts : List Token} {e : Formula} (h : Reads ts e) :
    Reads (.opening :: ts ++ [.closing]) e
  | joined {ls rs : List Token} {l r : Formula} (op : LogicalOperator) (hl : Reads ls l)
    (hr : Reads rs r) : Reads (ls ++ .operator op :: rs) (.joined op l r)

namespace Reads

open Token

variable {ts : List Token} {e : Formula}

theorem balanced (h : Reads ts e) : Balanced ts := by
  induction h with
  | predicate n s => exact balanced_singleton rfl
  | enclosed _ ih => exact ih.enclosed.balanced
  | @joined ls rs _ _ op _ _ ihl ihr =>
    exact ihl.append (.append (balanced_singleton (t := .operator op) rfl) ihr)

theorem of_enclosed (hts : Primary (.opening :: ts ++ [.closing]))
    (h : Reads (.opening :: ts ++ [.closing]) e) : Reads ts e := by
  generalize hus : Token.opening :: ts ++ [.closing] = us at h
  cases h with
  | predicate n s => cases ts <;> cases hus
  | enclosed h =>
    rw [List.cons_append, List.cons_append, List.cons.injEq] at hus
    rwa [List.append_cancel_right hus.2]
  | joined op hl hr => exact absurd hl.balanced.depth_eq (hts.inside _ _ _ hus)

theorem ne_nil (h : Reads ts e) : ts ≠ [] := by
  cases h with
  | predicate n s => exact List.cons_ne_nil _ _
  | enclosed h => exact List.cons_ne_nil _ _
  | joined op hl hr => exact List.append_ne_nil_of_right_ne_nil _ (List.cons_ne_nil _ _)

theorem eq_of_predicate {n : Nat} {s : String} (h : Reads [.predicate n s] e) :
    e = .predicate n := by
  generalize hts : [Token.predicate n s] = ts at h
  cases h with
  | predicate n s =>
    cases hts
    rfl
  | enclosed h => cases hts
  | joined op hl hr =>
    exact absurd hl.balanced.depth_eq ((primary_predicate n s).inside _ _ _ hts)

theorem exists_intercalate (op : LogicalOperator) {pieces : List (List Token)} (hne : pieces ≠ [])
    (h : ∀ p ∈ pieces, ∃ e, Reads p e) : ∃ e, Reads ([.operator op].intercalate pieces) e := by
  induction pieces with
  | nil => exact absurd rfl hne
  | cons p pieces ih =>
    rw [List.forall_mem_cons] at h
    obtain ⟨l, hl⟩ := h.1
    cases pieces with
    | nil => exact ⟨l, by rwa [List.intercalate_singleton]⟩
    | cons q pieces =>
      obtain ⟨r, hr⟩ := ih (List.cons_ne_nil _ _) h.2
      refine ⟨.joined op l r, ?_⟩
      rw [List.intercalate_cons_cons, List.append_assoc, List.singleton_append]
      exact .joined op hl hr

end Reads

/-- Joining the parts of a chain one by one is joining all of them, whichever are joined first. -/
theorem LogicalOperator.combine_append {op : LogicalOperator} (hop : op ≠ .xor) {xs ys : List Bool}
    (hxs : xs ≠ []) (hys : ys ≠ []) :
    op.combine [op.combine xs, op.combine ys] = op.combine (xs ++ ys) := by
  have hany {zs : List Bool} (hzs : zs ≠ []) :
      LogicalOperator.or.combine zs = zs.any id := by
    rw [combine, if_neg (by simpa using hzs)]
  cases op with
  | and => simp only [combine_and, List.all_append, List.all_cons, List.all_nil, id, Bool.and_true]
  | or =>
    rw [hany (List.cons_ne_nil _ _), hany hxs, hany hys,
      hany (List.append_ne_nil_of_left_ne_nil hxs _), List.any_append]
    simp only [List.any_cons, List.any_nil, id, Bool.or_false]
  | xor => exact absurd rfl hop

/-- Tokens that stay together, can be read, and have one value however they are read. -/
structure Settled (v : Nat → Bool) (b : Bool) (ts : List Token) : Prop where
  primary : Token.Primary ts
  single : Token.SingleOperator ts
  readable : ∃ e, Reads ts e
  value : ∀ e, Reads ts e → e.value v = b

section Value

open Token

variable {v : Nat → Bool} {op : LogicalOperator} {ts : List Token} {e : Formula}
  {values : List Bool} {pieces : List (List Token)}

theorem exists_settled (h : List.Forall₂ (Settled v) values pieces) :
    ∀ p ∈ pieces, ∃ b, Settled v b p := by
  induction h with
  | nil => exact List.forall_mem_nil _
  | cons hp _ ih => exact List.forall_mem_cons.2 ⟨⟨_, hp⟩, ih⟩

/-- Pieces that stay together once they are joined are one piece. -/
theorem value_of_primary (hts : Primary ts) (hr : Reads ts e)
    (h : List.Forall₂ (Settled v) values pieces) (heq : [.operator op].intercalate pieces = ts) :
    e.value v = op.combine values := by
  subst heq
  cases h with
  | nil => exact absurd rfl hr.ne_nil
  | cons hp hrest =>
    cases hrest with
    | nil =>
      rw [List.intercalate_singleton] at hr
      rw [hp.value e hr, LogicalOperator.combine_singleton]
    | @cons _ q _ pieces _ _ =>
      refine absurd hp.primary.balanced.depth_eq
        (hts.inside _ op ([.operator op].intercalate (q :: pieces)) ?_)
      rw [List.intercalate_cons_cons, List.append_assoc, List.singleton_append]

/-- However joined pieces are read, the operator between them is applied to the values of all. -/
theorem value_of_reads_intercalate (hop : op ≠ .xor) (hr : Reads ts e)
    (h : List.Forall₂ (Settled v) values pieces) (heq : [.operator op].intercalate pieces = ts) :
    e.value v = op.combine values := by
  induction hr generalizing values pieces with
  | predicate n s => exact value_of_primary (primary_predicate n s) (.predicate n s) h heq
  | enclosed hr => exact value_of_primary hr.balanced.enclosed hr.enclosed h heq
  | joined op' hl hr ihl ihr =>
    have hprimary : ∀ p ∈ pieces, Primary p := fun p hp => (exists_settled h p hp).elim
      fun _ hs => hs.primary
    obtain ⟨left, right, rfl, hleft, hright, hls, hrs, rfl⟩ :=
      exists_of_intercalate_eq hprimary hl.balanced.depth_eq heq
    have htake := List.forall₂_take_append values left right h
    have hdrop := List.forall₂_drop_append values left right h
    have hxs : values.take left.length ≠ [] := by
      intro hnil
      rw [hnil, List.forall₂_nil_left_iff] at htake
      exact hleft htake
    have hys : values.drop left.length ≠ [] := by
      intro hnil
      rw [hnil, List.forall₂_nil_left_iff] at hdrop
      exact hright hdrop
    rw [Formula.value, ihl htake hls.symm, ihr hdrop hrs.symm,
      LogicalOperator.combine_append hop hxs hys, List.take_append_drop]

end Value

namespace Chain

theorem forall₂_settled {v : Nat → Bool} {ms : List Chain}
    (h : ∀ m ∈ ms, ∀ start, Settled v (m.valueFrom v start) (m.pieceFrom start)) (start : Nat) :
    List.Forall₂ (Settled v) (valuesFrom v start ms) (piecesFrom start ms) := by
  induction ms generalizing start with
  | nil => exact .nil
  | cons m ms ih =>
    rw [List.forall_mem_cons] at h
    exact .cons (h.1 start) (ih h.2 _)

namespace Proper

variable {chain : Chain}

theorem settled (h : chain.Proper) (v : Nat → Bool) (start : Nat) :
    Settled v (chain.valueFrom v start) (chain.pieceFrom start) := by
  induction h generalizing start with
  | predicate c s =>
    refine ⟨Token.primary_predicate start s, Token.singleOperator_predicate start s,
      ⟨_, .predicate start s⟩, fun e he => ?_⟩
    rw [he.eq_of_predicate, Formula.value, valueFrom]
  | @joined op ms hop hne _ ih =>
    have hms := forall₂_settled ih start
    have hpieces : piecesFrom start ms ≠ [] := by
      cases ms with
      | nil => exact absurd rfl hne
      | cons m ms => exact List.cons_ne_nil _ _
    have hreadable : ∀ p ∈ piecesFrom start ms, ∃ e, Reads p e := fun p hp =>
      (exists_settled hms p hp).elim fun _ hs => hs.readable
    obtain ⟨e, he⟩ := Reads.exists_intercalate op hpieces hreadable
    have hsingle : ∀ p ∈ piecesFrom start ms, Token.Primary p ∧ Token.SingleOperator p :=
      fun p hp => (exists_settled hms p hp).elim fun _ hs => ⟨hs.primary, hs.single⟩
    refine ⟨he.balanced.enclosed, (Token.singleOperator_intercalate hsingle).enclosed,
      ⟨e, he.enclosed⟩, fun e' he' => ?_⟩
    exact value_of_reads_intercalate hop (he'.of_enclosed he.balanced.enclosed) hms rfl

theorem exists_reads_tokensFrom (h : chain.Proper) (start : Nat) :
    ∃ e, Reads (chain.tokensFrom start) e := by
  obtain ⟨hprimary, -, ⟨e, he⟩, -⟩ := h.settled (fun _ => true) start
  cases chain with
  | predicate c s => exact ⟨e, he⟩
  | joined op ms => exact ⟨e, he.of_enclosed hprimary⟩

theorem singleOperator_tokensFrom (h : chain.Proper) (start : Nat) :
    Token.SingleOperator (chain.tokensFrom start) := by
  have hsettled := h.settled (fun _ => true) start
  cases chain with
  | predicate c s => exact hsettled.single
  | joined op ms => exact hsettled.single.of_enclosed

/-- Whatever is read from the tokens of a chain has the value of the chain. -/
theorem value_tokensFrom (h : chain.Proper) {start : Nat} {e : Formula}
    (he : Reads (chain.tokensFrom start) e) (v : Nat → Bool) :
    e.value v = chain.valueFrom v start := by
  have hsettled := h.settled v start
  cases chain with
  | predicate c s => exact hsettled.value e he
  | joined op ms => exact hsettled.value e he.enclosed

end Proper

end Chain

end EntityQuery
