import SchemaBinding.Code.Structs.Identifier
import SchemaBinding.Config.Accessor
import SchemaBinding.Proofs.Text.CaseMap
import SchemaBinding.Proofs.Text.Words

/-!
# `SchemaBinding.Proofs.Code.NameLetters`: names that become identifiers

A name becomes an identifier if and only if its form in snake case or in Pascal case is one (`isOk_ofName`): the reserved
words, which are escaped, would be identifiers too. Such a form consists of the letters and numbers of the name, and
another letter case does not make an identifier out of what is none. So it is enough to look at the letters of the name:

* `IsFieldName` for fields and their accessors, in snake case (`isOk_ofField`, `isOk_ofAccessor`);
* `IsTypeName` for types, in Pascal case, where the first letter is in uppercase (`isOk_ofType`);
* `IsPartName` for what stands behind other words, as in the names of validators (`isOk_ofValidator`).

None of these holds of a name by itself. A name of the schema may have no letters at all, or begin with a number behind
its first underscore.
-/

set_option autoImplicit false

namespace SchemaBinding.Identifier

/-! ### Characters -/

theorem isContinue_of_isStart {c : Char} (h : isStart c = true) : isContinue c = true := by
  rw [isStart, Bool.or_eq_true, decide_eq_true_eq] at h
  rcases h with rfl | h
  · decide
  · exact CharSet.identifierContinue_of_identifierStart h

theorem isStart_eq_false_of_digit {c : Char} (h : ('0' ≤ c && c ≤ '9') = true) : isStart c = false := by
  rw [Bool.and_eq_true, decide_eq_true_eq, decide_eq_true_eq] at h
  have hlow : 0x30 ≤ c.toNat := h.1
  have hhigh : c.toNat ≤ 0x39 := h.2
  have hunderscore : c ≠ '_' := by
    rintro rfl
    exact absurd hhigh (by decide)
  have houtside : CharSet.identifierStart.contains c = false := by
    rw [CharSet.contains_eq_holds]
    exact CharSet.holds_of_avoids (by decide +kernel) hlow hhigh
  rw [isStart, decide_eq_false hunderscore, houtside]
  rfl

theorem isContinue_of_isDigit {c : Char} (h : c.isDigit = true) : isContinue c = true := by
  have hdigits : ∀ n ∈ List.range' 48 10, isContinue (Char.ofNat n) = true := by decide
  have hrange : 48 ≤ c.toNat ∧ c.toNat ≤ 57 := by simpa [Char.isDigit, UInt32.le_iff_toNat_le] using h
  have hcontinue := hdigits c.toNat (List.mem_range'_1.mpr ⟨hrange.1, by omega⟩)
  rwa [Char.ofNat_toNat] at hcontinue

theorem all_isContinue_lower (c : Char) : (CaseMap.lower c).all isContinue = isContinue c :=
  CaseMap.all_identifierContinue_lower c

theorem all_isContinue_upper (c : Char) : (CaseMap.upper c).all isContinue = isContinue c :=
  CaseMap.all_identifierContinue_upper c

theorem head?_isStart_lower (c : Char) : (CaseMap.lower c).head?.any isStart = isStart c := by
  by_cases hc : c = '_'
  · subst hc
    decide
  · -- No other character leads to the underscore, which is no letter and yet begins identifiers.
    have hhead : (CaseMap.lower c).head?.any isStart = (CaseMap.lower c).head?.any CharSet.identifierStart.contains := by
      cases hlower : CaseMap.lower c with
      | nil => rw [List.head?_nil, Option.any_none, Option.any_none]
      | cons first rest =>
          have hmem : first ∈ CaseMap.lower c := by
            rw [hlower]
            exact List.mem_cons_self
          have hfirst : first ≠ '_' := by
            rintro rfl
            exact CaseMap.underscore_not_mem_lower hc hmem
          rw [List.head?_cons, Option.any_some, Option.any_some, isStart, decide_eq_false hfirst, Bool.false_or]
    rw [hhead, CaseMap.head?_identifierStart_lower, isStart, decide_eq_false hc, Bool.false_or]

theorem isContinue_sigma : isContinue 'ς' = isContinue 'Σ' := by decide

theorem isStart_sigma : isStart 'ς' = isStart 'Σ' := by decide

/-! ### Identifiers -/

theorem isValid_eq (cs : List Char) : isValid cs = (cs.head?.any isStart && cs.all isContinue) := by
  cases cs with
  | nil => rfl
  | cons c rest =>
      cases hc : isStart c with
      | false => simp [isValid, hc]
      | true => simp [isValid, hc, isContinue_of_isStart hc]

/-- A name becomes an identifier if and only if it is one. -/
theorem isOk_ofName {name : String} : (∃ i, ofName name = .ok i) ↔ isValid name.toList = true := by
  have hreserved : ∀ word ∈ plainReserved ++ rawReserved, isValid word.toList = true := by decide
  unfold ofName
  split
  · rename_i hplain
    exact iff_of_true ⟨_, rfl⟩ (hreserved name (List.mem_append_left _ (by simpa using hplain)))
  · split
    · rename_i hraw
      exact iff_of_true ⟨_, rfl⟩ (hreserved name (List.mem_append_right _ (by simpa using hraw)))
    · unfold ofWord
      split
      · rename_i hempty
        rw [String.isEmpty_iff.mp hempty]
        exact iff_of_false (by simp) (by decide)
      · rename_i hempty
        split
        · rename_i hdigits
          refine iff_of_false (by simp) ?_
          -- The first of the digits does not begin an identifier.
          cases hchars : name.toList with
          | nil => exact absurd (String.isEmpty_iff.mpr (String.toList_eq_nil_iff.mp hchars)) hempty
          | cons c rest =>
              rw [hchars, List.all_cons, Bool.and_eq_true] at hdigits
              simp [isValid, isStart_eq_false_of_digit hdigits.1]
        · split
          · rename_i hvalid
            exact iff_of_true ⟨_, rfl⟩ hvalid
          · rename_i hvalid
            exact iff_of_false (by simp) hvalid

/-! ### Letters of names -/

/-- The letters of the name make up an identifier. -/
def IsFieldName (name : String) : Prop := isValid (Text.letters name) = true

/-- They do when the first of them is in uppercase. -/
def IsTypeName (name : String) : Prop :=
  ∃ c rest, Text.letters name = c :: rest ∧ isValid (CaseMap.upper c ++ rest) = true

/-- They may stand in an identifier after its first character. -/
def IsPartName (name : String) : Prop := (Text.letters name).all isContinue = true

instance (name : String) : Decidable (IsFieldName name) := inferInstanceAs (Decidable (_ = _))

instance (name : String) : Decidable (IsPartName name) := inferInstanceAs (Decidable (_ = _))

theorem all_snakeCase (name : String) : (Text.snakeCase name).toList.all isContinue = (Text.letters name).all isContinue :=
  Text.all_snakeCase (by decide) all_isContinue_lower isContinue_sigma name

theorem isValid_snakeCase (name : String) : isValid (Text.snakeCase name).toList = isValid (Text.letters name) := by
  rw [isValid_eq, isValid_eq, all_snakeCase, Text.head?_snakeCase head?_isStart_lower isStart_sigma]

theorem isOk_ofField {name : String} : (∃ i, ofField name = .ok i) ↔ IsFieldName name := by
  rw [ofField, isOk_ofName, isValid_snakeCase]
  rfl

theorem isOk_ofType {name : String} : (∃ i, ofType name = .ok i) ↔ IsTypeName name := by
  rw [ofType, isOk_ofName, isValid_eq, Text.head?_pascalCase,
    Text.all_pascalCase all_isContinue_lower all_isContinue_upper isContinue_sigma]
  unfold IsTypeName
  cases hletters : Text.letters name with
  | nil => simp
  | cons c rest =>
      have hfirst : (CaseMap.upper c ++ rest).head? = (CaseMap.upper c).head? :=
        List.head?_append_of_ne_nil _ (CaseMap.upper_ne_nil c)
      have hall : (CaseMap.upper c ++ rest).all isContinue = (c :: rest).all isContinue := by
        rw [List.all_append, all_isContinue_upper, List.all_cons]
      have hsame : isValid (CaseMap.upper c ++ rest) = ((CaseMap.upper c).head?.any isStart && (c :: rest).all isContinue) := by
        rw [isValid_eq, hfirst, hall]
      constructor
      · exact fun h => ⟨c, rest, rfl, hsame.trans h⟩
      · rintro ⟨c', rest', heq, h⟩
        cases heq
        exact hsame.symm.trans h

theorem isOk_ofValidator {name : String} : (∃ i, ofValidator name = .ok i) ↔ IsPartName name := by
  have hverb : isValid "validate_".toList = true := by decide
  rw [isValid_eq, Bool.and_eq_true] at hverb
  have hne : "validate_".toList ≠ [] := by decide
  rw [ofValidator, isOk_ofName, isValid_eq, String.toList_append, List.head?_append_of_ne_nil _ hne, hverb.1,
    List.all_append, hverb.2, all_snakeCase]
  exact Iff.rfl

/-! ### Accessors -/

/-- What accessors do. -/
def verbs : List String := ["get", "set", "add", "insert", "remove"]

/-- The letters among the images of a character may stand in an identifier, if the character is none or may do so. -/
theorem all_letters_image {f : Char → List Char} {c : Char} (hall : (f c).all isContinue = isContinue c)
    (hself : CharSet.alphabetic.contains c = false → f c = [c])
    (hc : ([c].filter Text.isAlphanumeric).all isContinue = true) :
    ((f c).filter Text.isAlphanumeric).all isContinue = true := by
  cases halphanumeric : Text.isAlphanumeric c with
  | false =>
      rw [hself (Bool.or_eq_false_iff.mp halphanumeric).1]
      exact hc
  | true =>
      rw [List.filter_cons_of_pos halphanumeric] at hc
      have hcontinue : isContinue c = true := by simpa using hc
      refine List.all_eq_true.mpr fun d hd => ?_
      exact List.all_eq_true.mp (hall.trans hcontinue) d (List.mem_of_mem_filter hd)

theorem all_letters_flatMap_lower {cs : List Char} (h : (cs.filter Text.isAlphanumeric).all isContinue = true) :
    ((cs.flatMap CaseMap.lower).filter Text.isAlphanumeric).all isContinue = true := by
  induction cs with
  | nil => rfl
  | cons c rest ih =>
      rw [← List.singleton_append, List.filter_append, List.all_append, Bool.and_eq_true] at h
      rw [List.flatMap_cons, List.filter_append, List.all_append, ih h.2, Bool.and_true]
      exact all_letters_image (all_isContinue_lower c) CaseMap.lower_eq_self h.1

/-- The letters of a name in another letter case are such as the name has. -/
theorem all_letters_capitalized {name : String} (h : IsPartName name) : IsPartName (Text.capitalized name) := by
  unfold IsPartName Text.letters at *
  unfold Text.capitalized
  cases hchars : name.toList with
  | nil => rfl
  | cons c rest =>
      rw [hchars, ← List.singleton_append, List.filter_append, List.all_append, Bool.and_eq_true] at h
      rw [String.toList_ofList, List.filter_append, List.all_append, all_letters_flatMap_lower h.2, Bool.and_true]
      exact all_letters_image (all_isContinue_upper c) CaseMap.upper_eq_self h.1

theorem isPartName_accessor (style : AccessorStyle) {name : String} (h : IsPartName name) : IsPartName (style.accessor name) := by
  cases style with
  | underscored =>
      have hnone : Text.letters "_" = [] := by simp [Text.letters, Text.isAlphanumeric_underscore]
      rw [AccessorStyle.accessor, IsPartName, Text.letters_append, hnone]
      exact h
  | capitalized => exact all_letters_capitalized h

/-- A field whose name becomes an identifier has accessors whose names do. -/
theorem isOk_ofAccessor (style : AccessorStyle) {verb name : String} (hverb : verb ∈ verbs) (h : IsFieldName name) :
    ∃ i, ofAccessor verb (style.accessor name) = .ok i := by
  have hverbs : ∀ verb ∈ verbs, Text.letters verb ≠ [] ∧ isValid (Text.letters verb) = true := by decide
  obtain ⟨hne, hvalid⟩ := hverbs verb hverb
  rw [isValid_eq, Bool.and_eq_true] at hvalid
  rw [IsFieldName, isValid_eq, Bool.and_eq_true] at h
  have hlater : (Text.letters (style.accessor name)).all isContinue = true := isPartName_accessor style h.2
  rw [ofAccessor, isOk_ofName, isValid_snakeCase, Text.letters_append, isValid_eq, List.head?_append_of_ne_nil _ hne,
    hvalid.1, List.all_append, hvalid.2, hlater]
  rfl

end SchemaBinding.Identifier
