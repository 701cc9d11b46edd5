import EntityQuery.Proofs.NestedValues
import EntityQuery.Write

/-!
# The body of a row

The values of a row are set in its body one after the other, each at the steps of its address. Where
the steps of no address begin those of another, the body holds every value at its address and
nothing else, in whatever order the values come (`rowBody_holds`).
-/

namespace EntityQuery

open Text

theorem Text.mem_of_mem_splitChar {sep x : Char} {s piece : List Char}
    (hpiece : piece ∈ splitChar sep s) (hx : x ∈ piece) : x ∈ s := by
  induction s generalizing piece with
  | nil =>
    cases List.mem_singleton.1 hpiece
    cases hx
  | cons c s ih =>
    rw [splitChar] at hpiece
    split_ifs at hpiece with hsep
    · rcases List.mem_cons.1 hpiece with rfl | hpiece
      · cases hx
      · exact List.mem_cons_of_mem _ (ih hpiece hx)
    · obtain ⟨first, rest, hsplit⟩ := List.exists_cons_of_ne_nil (splitChar_ne_nil sep s)
      rw [hsplit] at hpiece ih
      rcases List.mem_cons.1 hpiece with rfl | hpiece
      · rcases List.mem_cons.1 hx with rfl | hx
        · exact List.mem_cons_self
        · exact List.mem_cons_of_mem _ (ih List.mem_cons_self hx)
      · exact List.mem_cons_of_mem _ (ih (List.mem_cons_of_mem _ hpiece) hx)

/-- A path without opening bracket consists of names. -/
theorem Path.isName_of_mem_steps {path step : String} (h : '[' ∉ path.toList)
    (hstep : step ∈ steps path) : IsName step := by
  obtain ⟨piece, hpiece, rfl⟩ := List.mem_map.1 (List.mem_filter.1 hstep).1
  rw [IsName, String.toList_ofList]
  exact fun hx => h (mem_of_mem_splitChar hpiece hx)

/-- The form of a value in a body. -/
def Codec.bodyForm (c : Codec) (x : Attribute × Value) : Except CodecFault Value :=
  c.encodeForBody x.2 x.1.dataType x.1.options.odataType

/-- The steps of the address of an attribute in a body. -/
def Attribute.writeSteps (a : Attribute) (o : Occasion) : List String :=
  Path.steps (a.writeAddress o)

/-- The values of a row can be written beside each other: none is left out, each has a form in a
body and an address of names, and the steps of no address begin those of another. -/
structure WrittenApart (c : Codec) (o : Occasion) (skip : Option String)
    (values : List (Attribute × Value)) : Prop where
  unskipped : ∀ x ∈ values, skip ≠ some x.1.name
  unrelated : ∀ x ∈ values, x.1.related = false
  present : ∀ x ∈ values, x.2.isMissing = false
  remote : ∀ x ∈ values, x.1.hasRemoteAddress = true
  encoded : ∀ x ∈ values, ∃ form, c.bodyForm x = .ok form
  named : ∀ x ∈ values, x.1.writeSteps o ≠ []
  plain : ∀ x ∈ values, '[' ∉ (x.1.writeAddress o).toList
  apart : values.Pairwise fun x y =>
    ¬x.1.writeSteps o <+: y.1.writeSteps o ∧ ¬y.1.writeSteps o <+: x.1.writeSteps o

section Body

variable {c : Codec} {o : Occasion} {skip : Option String}
  {values values' : List (Attribute × Value)}

/-- Where a body holds a value, and in which form. -/
def place (c : Codec) (o : Occasion) (x : Attribute × Value) : List String × Value :=
  (x.1.writeSteps o, match c.bodyForm x with
    | .ok form => form
    | .error _ => .null)

theorem place_of_ok {x : Attribute × Value} {form : Value} (h : c.bodyForm x = .ok form) :
    place c o x = (x.1.writeSteps o, form) := by
  rw [place, h]

namespace WrittenApart

theorem perm (h : WrittenApart c o skip values) (hperm : values.Perm values') :
    WrittenApart c o skip values' where
  unskipped x hx := h.unskipped x (hperm.mem_iff.2 hx)
  unrelated x hx := h.unrelated x (hperm.mem_iff.2 hx)
  present x hx := h.present x (hperm.mem_iff.2 hx)
  remote x hx := h.remote x (hperm.mem_iff.2 hx)
  encoded x hx := h.encoded x (hperm.mem_iff.2 hx)
  named x hx := h.named x (hperm.mem_iff.2 hx)
  plain x hx := h.plain x (hperm.mem_iff.2 hx)
  apart := h.apart.perm hperm fun h => h.symm

theorem apart_places (h : WrittenApart c o skip values) :
    Path.Apart (values.map (place c o)) where
  named := List.forall_mem_map.2 h.named
  apart := List.pairwise_map.2 h.apart

/-- No value stops the others from being set. -/
theorem rowBody_eq (h : WrittenApart c o skip values) :
    rowBody c o skip values = .ok (Path.putAll [] (values.map (place c o))) := by
  rw [Path.putAll, List.foldl_map]
  refine List.foldlM_of_ok (fun body x hx => ?_) []
  obtain ⟨form, hform⟩ := h.encoded x hx
  have hkept : ¬(skip = some x.1.name || x.1.related || x.2.isMissing ||
      !x.1.hasRemoteAddress) = true := by
    simp [h.unskipped x hx, h.unrelated x hx, h.present x hx, h.remote x hx]
  have hform' : c.encodeForBody x.2 x.1.dataType x.1.options.odataType = .ok form := hform
  dsimp only
  rw [place_of_ok hform, if_neg hkept, hform']
  rfl

end WrittenApart

/-- The body of a row holds every value at its address and nothing else, and another order of the
values makes no difference but that of the entries. -/
theorem rowBody_holds (h : WrittenApart c o skip values) :
    ∃ body, rowBody c o skip values = .ok body ∧
      (∀ x ∈ values, ∀ form, c.bodyForm x = .ok form →
        Path.find (.map body) (x.1.writeAddress o) = .ok form) ∧
      (∀ names v, names ≠ [] → (Value.map body).at? names = some v →
        ∃ x ∈ values, names <+: x.1.writeSteps o ∨ x.1.writeSteps o <+: names) ∧
      ∀ values', values.Perm values' → ∃ body', rowBody c o skip values' = .ok body' ∧
        (Value.map body).Equal (.map body') := by
  refine ⟨_, h.rowBody_eq, fun x hx form hform => ?_, fun names v hne hat => ?_,
    fun values' hperm => ⟨_, (h.perm hperm).rowBody_eq, ?_⟩⟩
  · have hplace : (x.1.writeSteps o, form) ∈ values.map (place c o) :=
      List.mem_map.2 ⟨x, hx, place_of_ok hform⟩
    have hnames : ∀ step ∈ x.1.writeSteps o, Path.IsName step ∧ step ≠ "" := fun step hstep =>
      ⟨Path.isName_of_mem_steps (h.plain x hx) hstep, Path.ne_empty_of_mem_steps hstep⟩
    exact Path.findSteps_of_at? hnames (Path.at?_putAll h.apart_places hplace)
  · obtain ⟨y, hy, hprefix⟩ := Path.exists_of_at?_putAll h.apart_places hne hat
    obtain ⟨x, hx, rfl⟩ := List.mem_map.1 hy
    exact ⟨x, hx, hprefix⟩
  · exact Path.equal_putAll h.apart_places (hperm.map _)

def customerValues : List (Attribute × Value) := [
  ({ name := "city", dataAddress := "City", options := { createDataAddress := some "Home/City" } },
    .str "Rome"),
  ({ name := "rank", dataAddress := "Ranks/0", dataType := .integer,
     options := { odataType := some "Edm.Int32" } }, .int 7),
  ({ name := "street", dataAddress := "/Home//Street/" },
    .map [("Name", .str "Via"), ("No", .null)])]

theorem rowBody_holds_customer : WrittenApart .odata2 .create (some "id") customerValues ∧
    ∃ body, rowBody .odata2 .create (some "id") customerValues = .ok body ∧
      Path.find (.map body) "Home/City" = .ok (.str "Rome") ∧
      Path.find (.map body) "Ranks/0" = .ok (.str "7") ∧
      ∃ body', rowBody .odata2 .create (some "id") customerValues.reverse = .ok body' ∧
        body' ≠ body ∧ (Value.map body).Equal (.map body') := by
  have h : WrittenApart .odata2 .create (some "id") customerValues := {
    unskipped := by decide
    unrelated := by decide
    present := by decide
    remote := by decide
    encoded := by
      refine List.forall_mem_cons.2 ⟨⟨_, rfl⟩, List.forall_mem_cons.2 ⟨?_, ?_⟩⟩
      · exact ⟨.str "7", by decide +kernel⟩
      · exact List.forall_mem_cons.2 ⟨⟨_, rfl⟩, List.forall_mem_nil _⟩
    named := by decide +kernel
    plain := by decide +kernel
    apart := by decide +kernel }
  obtain ⟨body, hbody, hfind, -, hperm⟩ := rowBody_holds h
  obtain ⟨body', hbody', hequal⟩ := hperm _ (List.reverse_perm _).symm
  have hdiffer : rowBody .odata2 .create (some "id") customerValues.reverse ≠
      rowBody .odata2 .create (some "id") customerValues := by decide +kernel
  refine ⟨h, body, hbody, ?_, ?_, body', hbody', ?_, hequal⟩
  · exact hfind _ List.mem_cons_self (.str "Rome") (by decide +kernel)
  · exact hfind _ (List.mem_cons_of_mem _ List.mem_cons_self) (.str "7") (by decide +kernel)
  · rintro rfl
    exact hdiffer (hbody'.trans hbody.symm)

end Body

end EntityQuery
