import GivenNames.Proofs.Delimited
import GivenNames.Proofs.Results
import GivenNames.Source.Column

/-!
Where tables have their columns.

Main statements: a layout is found exactly when every column is (`Layout.ofHeaders_eq_ok_iff`), its
positions lie within the table (`Layout.position_lt`), it depends on nothing but the bare headers
(`Layout.ofHeaders_congr`), and it takes more than one header, as none names two columns
(`Layout.two_le_length`). A header that names a column holds neither separator
(`Column.char_notMem_of_isNamedBy`).
-/

namespace GivenNames

namespace Column

theorem mem_all (c : Column) : c ∈ all := by
  cases c <;> decide

/-- No header names two columns. -/
theorem eq_of_isNamedBy {c d : Column} {header : String} (first : c.isNamedBy header = true)
    (second : d.isNamedBy header = true) : c = d := by
  obtain ⟨s, spelling, same⟩ := List.any_eq_true.mp first
  obtain ⟨t, spelling', same'⟩ := List.any_eq_true.mp second
  have equal : Text.eqIgnoringAsciiCase s t = true := by
    simp only [Text.eqIgnoringAsciiCase, beq_iff_eq] at same same' ⊢
    exact same.trans same'.symm
  -- The spellings of different columns differ, whatever the case of their letters.
  have apart : ∀ c ∈ all, ∀ d ∈ all, ∀ s ∈ c.spellings, ∀ t ∈ d.spellings,
      Text.eqIgnoringAsciiCase s t = true → c = d := by decide
  exact apart c c.mem_all d d.mem_all s spelling t spelling' equal

/-- A header that names a column holds marks, blanks and, in either case, letters of a spelling. -/
theorem mem_of_isNamedBy {c : Column} {header : String} (named : c.isNamedBy header = true)
    {d : Char} (member : d ∈ header.toList) :
    d = '\ufeff' ∨ Text.isBlank d = true ∨
      ∃ s ∈ c.spellings, d.toLower ∈ s.toList.map Char.toLower := by
  obtain ⟨s, spelling, same⟩ := List.any_eq_true.mp named
  simp only [Text.eqIgnoringAsciiCase, beq_iff_eq, bareHeader, String.toList_ofList] at same
  rcases Text.holds_or_mem_dropWhile (p := (· == '\ufeff')) member with mark | rest
  · exact .inl (beq_iff_eq.mp mark)
  · rcases Text.isBlank_or_mem_trimChars rest with blank | bare
    · exact .inr (.inl blank)
    · refine .inr (.inr ⟨s, spelling, ?_⟩)
      rw [same]
      exact List.mem_map_of_mem bare

/-- No header that names a column holds a separator. -/
theorem char_notMem_of_isNamedBy {c : Column} {header : String} (named : c.isNamedBy header = true)
    (separator : Delimited.Separator) : separator.char ∉ header.toList := by
  have other : ∀ s ∈ c.spellings, separator.char.toLower ∉ s.toList.map Char.toLower := by
    cases c <;> cases separator <;> decide
  intro member
  rcases mem_of_isNamedBy named member with mark | blank | ⟨s, spelling, letter⟩
  · cases separator <;> contradiction
  · cases separator <;> contradiction
  · exact other s spelling letter

theorem bareHeader_withoutMark (h : String) :
    bareHeader (Delimited.withoutMark h) = bareHeader h := by
  by_cases marked : ∃ cs, h.toList = '\ufeff' :: cs
  · obtain ⟨cs, marked⟩ := marked
    have rest : Delimited.withoutMark h = String.ofList cs := by
      rw [Delimited.withoutMark, marked]
      rfl
    rw [rest, bareHeader, bareHeader, marked, String.toList_ofList]
    rfl
  · rw [Delimited.withoutMark_eq_self (not_exists.mp marked)]

end Column

namespace Layout

theorem find_eq_ok {headers : List String} {c : Column} {position : Nat}
    (found : find headers c = .ok position) :
    ∃ h, headers[position]? = some h ∧ c.isNamedBy h = true := by
  unfold find at found
  split at found
  · rename_i i first
    obtain rfl := Except.ok.inj found
    obtain ⟨within, named, _⟩ := List.findIdx?_eq_some_iff_getElem.mp first
    exact ⟨headers[i], List.getElem?_eq_getElem within, named⟩
  · contradiction

/-- A layout is found exactly when every column is. -/
theorem ofHeaders_eq_ok_iff {headers : List String} {layout : Layout} :
    ofHeaders headers = .ok layout ↔ ∀ c, find headers c = .ok (layout.position c) := by
  constructor
  · intro located
    simp only [ofHeaders, bind_eq_ok_iff, pure, Except.pure, Except.ok.injEq] at located
    obtain ⟨_, year, _, district, _, gender, _, name, _, count, rfl⟩ := located
    intro c
    cases c with
    | year => exact year
    | district => exact district
    | gender => exact gender
    | name => exact name
    | count => exact count
  · intro found
    simp [ofHeaders, found, position, bind, Except.bind, pure, Except.pure]

variable {headers : List String} {layout : Layout}

theorem position_lt (located : ofHeaders headers = .ok layout) (c : Column) :
    layout.position c < headers.length := by
  obtain ⟨h, here, _⟩ := find_eq_ok (ofHeaders_eq_ok_iff.mp located c)
  exact (List.getElem?_eq_some_iff.mp here).1

/-- The columns of a layout are different ones. -/
theorem position_injective (located : ofHeaders headers = .ok layout) {c d : Column}
    (same : layout.position c = layout.position d) : c = d := by
  obtain ⟨h, here, first⟩ := find_eq_ok (ofHeaders_eq_ok_iff.mp located c)
  obtain ⟨h', here', second⟩ := find_eq_ok (ofHeaders_eq_ok_iff.mp located d)
  rw [same, here'] at here
  obtain rfl := Option.some.inj here
  exact Column.eq_of_isNamedBy first second

theorem two_le_length (located : ofHeaders headers = .ok layout) : 2 ≤ headers.length := by
  have year := position_lt located .year
  have district := position_lt located .district
  have apart : layout.position .year ≠ layout.position .district :=
    fun same => nomatch position_injective located same
  omega

/-- A layout depends on nothing but the bare headers. -/
theorem ofHeaders_congr {headers headers' : List String}
    (same : headers.map Column.bareHeader = headers'.map Column.bareHeader) :
    ofHeaders headers = ofHeaders headers' := by
  have find_eq (c : Column) : find headers c = find headers' c := by
    have named (hs : List String) : hs.findIdx? c.isNamedBy =
        (hs.map Column.bareHeader).findIdx? fun bare =>
          c.spellings.any fun s => Text.eqIgnoringAsciiCase s bare := by
      rw [List.findIdx?_map]
      rfl
    rw [find, find, named, named, same]
  simp only [ofHeaders, find_eq]

/-- The mark that is taken for that of the file makes no difference. -/
theorem ofHeaders_unmarked (separator : Delimited.Separator) (headers : List String) :
    ofHeaders (Delimited.unmarked separator headers) = ofHeaders headers := by
  refine ofHeaders_congr ?_
  cases headers with
  | nil => rfl
  | cons h headers =>
      simp only [Delimited.unmarked, Delimited.readAs, List.map_cons]
      split
      · rfl
      · rw [Column.bareHeader_withoutMark]

end Layout

end GivenNames
