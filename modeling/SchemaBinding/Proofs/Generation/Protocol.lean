import Mathlib.Data.List.Forall2
import SchemaBinding.Proofs.Generation.Blocks

/-!
# `SchemaBinding.Proofs.Generation.Protocol`: the order of the calls for a type

Both back ends rely on the order in which they are told of a type, since they write some of it down at once and keep
the rest until the type ends. This module states that order as a grammar of its own (`Call.InOrder`), which does not go
through the definition of the calls: the beginning, a documentation that is not blank, the fields with their
validators, the standard members, the members of the user, and the end. The fields are arranged by their kinds
(`Field.Arranged`), and the validators of a block are for different simple types.

`typeCalls_inOrder` says that the calls for any declaration follow the grammar. The calls of a run are the blocks of the
declarations that it begins, so a run makes one such block for each name that it reports, in that order
(`Run.generate_inOrder`).
-/

set_option autoImplicit false

namespace SchemaBinding

/-! ### The grammar -/

/-- The group of fields that a kind belongs to, in the order of the groups. -/
def FieldKind.group : FieldKind → Nat
  | .element => 0
  | .wildcard => 0
  | .attribute => 1
  | .value => 2
  | .anyAttributes => 3
  | .extensionType => 4

/-- Whether a type has at most one field of the kind. -/
def FieldKind.isSingle : FieldKind → Bool
  | .element => false
  | .attribute => false
  | _ => true

/-- A field of the second kind may come after one of the first. -/
def FieldKind.MayPrecede (kind later : FieldKind) : Prop :=
  kind.group ≤ later.group ∧ (kind.isSingle = true → kind ≠ later)

/-- The fields of a type: particles, attributes, and then those that stand for content without a name, of each kind at
most one. -/
def Field.Arranged (fs : List Field) : Prop := fs.Pairwise fun f later => f.kind.MayPrecede later.kind

/-- A field, and the restriction that is checked with it. -/
structure CheckedField where
  field : Field
  check? : Option SimpleTypeDef

/-- The calls for a field: a validator comes right after it. -/
def CheckedField.calls (x : CheckedField) : List Call := .field x.field :: (x.check?.map Call.validator).toList

/-- The simple types that validators are made for. -/
def CheckedField.checkedTypes (fs : List CheckedField) : List String := fs.filterMap fun x => x.check?.map (·.name)

/-- The calls for the type `name`, in the order that back ends rely on. -/
inductive Call.InOrder (config : Config) (name : String) : List Call → Prop where
  | mk (base documentation : Option String) (members : List CheckedField)
      (hdocumentation : ∀ text ∈ documentation, ∃ c ∈ text.toList, Text.isBlank c = false)
      (harranged : Field.Arranged (members.map (·.field)))
      (hchecks : (CheckedField.checkedTypes members).Nodup) :
      InOrder config name
        ([.beginType base name] ++ (documentation.map Call.documentation).toList ++
          members.flatMap CheckedField.calls ++ [.comparators, .serializeHooks, .deserializeHooks] ++
          (config.methods.filter (·.isFor name)).map (fun spec => .userMethods (spec.render name)) ++ [.endType])

/-! ### Documentation -/

namespace Text

/-- What is left of a text when the white space around it is gone ends with a character that is not white space. -/
theorem exists_of_trimmed_ne_nil {cs : List Char} (h : trimmed cs ≠ []) : ∃ c ∈ trimmed cs, isBlank c = false := by
  unfold trimmed dropTailWhile at h ⊢
  have hne : ((cs.dropWhile isBlank).reverse.dropWhile isBlank) ≠ [] := by simpa using h
  refine ⟨_, List.mem_reverse.mpr (List.head_mem hne), ?_⟩
  simpa using List.head_dropWhile_not isBlank hne

end Text

/-- A text that is kept is not blank. -/
theorem exists_of_nonBlank? {s text : String} (h : text ∈ nonBlank? s) :
    ∃ c ∈ text.toList, Text.isBlank c = false := by
  unfold nonBlank? at h
  simp only [Option.mem_def] at h
  split at h
  · cases h
  · rename_i hne
    cases h
    simp only [Text.trim, String.toList_ofList]
    refine Text.exists_of_trimmed_ne_nil ?_
    intro hnil
    simp [Text.trim, hnil] at hne

/-! ### Fields and validators -/

variable {m : Model} {style : AccessorStyle}

/-- Each field with the validator that follows it: that of its restriction, unless the simple type has one already. -/
def checkedFields (m : Model) (validated : List String) : List Field → List CheckedField
  | [] => []
  | f :: rest =>
    let check? := (restriction? m f).filter fun d => !validated.contains d.name
    ⟨f, check?⟩ :: checkedFields m ((check?.map (·.name)).toList ++ validated) rest

/-- The calls for fields are those of the fields with their validators. -/
theorem fieldCalls_eq (m : Model) (validated : List String) (fs : List Field) :
    fieldCalls m validated fs = (checkedFields m validated fs).flatMap CheckedField.calls := by
  induction fs generalizing validated with
  | nil => rfl
  | cons f rest ih =>
      unfold fieldCalls
      cases hd : restriction? m f with
      | none => simp [checkedFields, hd, ih, CheckedField.calls]
      | some d =>
          by_cases hseen : d.name ∈ validated <;>
            simp [checkedFields, hd, hseen, ih, CheckedField.calls, Option.filter]

theorem map_field_checkedFields (m : Model) (validated : List String) (fs : List Field) :
    (checkedFields m validated fs).map (·.field) = fs := by
  induction fs generalizing validated with
  | nil => rfl
  | cons f rest ih => simp [checkedFields, ih]

/-- No simple type gets a second validator. -/
theorem nodup_checkedTypes (m : Model) (validated : List String) (fs : List Field) :
    (CheckedField.checkedTypes (checkedFields m validated fs)).Nodup ∧
      ∀ name ∈ CheckedField.checkedTypes (checkedFields m validated fs), name ∉ validated := by
  induction fs generalizing validated with
  | nil => simp [checkedFields, CheckedField.checkedTypes]
  | cons f rest ih =>
      unfold checkedFields
      cases hd : (restriction? m f).filter fun d => !validated.contains d.name with
      | none => simpa [CheckedField.checkedTypes] using ih validated
      | some d =>
          have hnew : d.name ∉ validated := by simpa using (Option.filter_eq_some_iff.mp hd).2
          -- The rest of the fields counts the simple type among those that have a validator.
          obtain ⟨hnodup, hrest⟩ := ih (d.name :: validated)
          have htypes : CheckedField.checkedTypes (⟨f, some d⟩ :: checkedFields m (d.name :: validated) rest) =
              d.name :: CheckedField.checkedTypes (checkedFields m (d.name :: validated) rest) := rfl
          simp only [Option.map_some, Option.toList_some, List.singleton_append, htypes]
          refine ⟨List.nodup_cons.mpr ⟨fun hmem => hrest _ hmem List.mem_cons_self, hnodup⟩, ?_⟩
          intro name hname
          rcases List.mem_cons.mp hname with rfl | hname
          · exact hnew
          · exact fun hmem => hrest name hname (List.mem_cons_of_mem _ hmem)

/-! ### The kinds of fields -/

theorem kind_of_mem_childFields {wildcardSeen : Bool} {children : List Node} {f : Field}
    (h : f ∈ childFields m style wildcardSeen children) :
    f.kind = .element ∨ f.kind = .wildcard ∧ wildcardSeen = false := by
  fun_induction childFields m style wildcardSeen children with
  | case1 => cases h
  | case2 _ _ _ ih => exact ih h
  | case3 _ child _ _ hseen ih =>
      rcases List.mem_cons.mp h with rfl | h
      · exact Or.inr ⟨rfl, by simpa using hseen⟩
      · rcases ih h with hkind | ⟨-, htrue⟩
        · exact Or.inl hkind
        · cases htrue
  | case4 _ child _ _ ih =>
      rcases List.mem_cons.mp h with rfl | h
      · exact Or.inl rfl
      · exact ih h

/-- The fields of the children are particles, and one of them at most is for wildcards. -/
theorem arranged_childFields (wildcardSeen : Bool) (children : List Node) :
    Field.Arranged (childFields m style wildcardSeen children) := by
  fun_induction childFields m style wildcardSeen children with
  | case1 => exact List.Pairwise.nil
  | case2 _ _ _ ih => exact ih
  | case3 _ child _ _ _ ih =>
      refine List.pairwise_cons.mpr ⟨?_, ih⟩
      intro later hlater
      -- After the field for wildcards all fields are those of elements.
      rcases kind_of_mem_childFields hlater with hkind | ⟨-, htrue⟩
      · simp [hkind, wildcardField, plainField, FieldKind.MayPrecede, FieldKind.group]
      · cases htrue
  | case4 _ child _ _ ih =>
      refine List.pairwise_cons.mpr ⟨?_, ih⟩
      intro later _
      simp [elementField, plainField, FieldKind.MayPrecede, FieldKind.group, FieldKind.isSingle]

theorem arranged_contentFields (n : Node) : Field.Arranged (contentFields m style n) := by
  unfold contentFields Field.Arranged
  split <;> split <;> split <;>
    simp [plainField, FieldKind.MayPrecede, FieldKind.group]

/-- Lists of fields of different groups are arranged when each of them is and their groups are in order. -/
theorem Field.Arranged.append {fs later : List Field} (h : Field.Arranged fs) (hlater : Field.Arranged later)
    (hgroup : ∀ f ∈ fs, ∀ g ∈ later, f.kind.group < g.kind.group) : Field.Arranged (fs ++ later) := by
  refine List.pairwise_append.mpr ⟨h, hlater, ?_⟩
  intro f hf g hg
  have hlt := hgroup f hf g hg
  exact ⟨Nat.le_of_lt hlt, fun _ hsame => Nat.ne_of_lt hlt (congrArg FieldKind.group hsame)⟩

theorem group_of_mem_contentFields {n : Node} {f : Field} (h : f ∈ contentFields m style n) : 1 < f.kind.group := by
  unfold contentFields at h
  simp only [List.mem_append] at h
  rcases h with (h | h) | h <;> split at h
  all_goals first | cases List.not_mem_nil h | cases List.mem_singleton.mp h
  all_goals simp [plainField, FieldKind.group]

theorem arranged_fields (n : Node) : Field.Arranged (fields m style n) := by
  have hchild : ∀ f ∈ childFields m style false (n.children.map m.node), f.kind.group = 0 := by
    intro f hf
    rcases kind_of_mem_childFields hf with hkind | ⟨hkind, -⟩ <;> simp [hkind, FieldKind.group]
  have hattribute : ∀ f ∈ n.attributes.values.map (attributeField style), f.kind = .attribute := by
    intro f hf
    obtain ⟨d, -, rfl⟩ := List.mem_map.mp hf
    rfl
  have harranged : Field.Arranged (n.attributes.values.map (attributeField style)) := by
    refine List.Pairwise.imp_of_mem (fun hf hg _ => ?_) (List.pairwise_of_forall (R := fun _ _ => True) (by simp))
    rw [hattribute _ hf, hattribute _ hg]
    exact ⟨Nat.le_refl _, by simp [FieldKind.isSingle]⟩
  refine ((arranged_childFields _ _).append harranged ?_).append (arranged_contentFields n) ?_
  · intro f hf g hg
    rw [hchild f hf, hattribute g hg]
    exact Nat.zero_lt_one
  · intro f hf g hg
    refine Nat.lt_of_le_of_lt ?_ (group_of_mem_contentFields hg)
    rcases List.mem_append.mp hf with hf | hf
    · simp [hchild f hf]
    · simp [hattribute f hf, FieldKind.group]

/-! ### Blocks -/

/-- The calls for a declaration are in order. -/
theorem typeCalls_inOrder (m : Model) (config : Config) (n : Node) (base : Option Node) :
    Call.InOrder config n.cleanName (typeCalls m config n base) := by
  unfold typeCalls
  rw [fieldCalls_eq]
  refine .mk _ _ _ (fun _ => exists_of_nonBlank?) ?_ (nodup_checkedTypes m [] _).1
  rw [map_field_checkedFields]
  exact arranged_fields n

/-- The calls of a run are blocks in order, one for each name that it reports as generated. -/
theorem Run.generate_inOrder (m : Model) (config : Config) :
    ∃ blocks : List (List Call), (generate config m).calls = blocks.flatten ∧
      List.Forall₂ (Call.InOrder config) (generate config m).report.emitted blocks := by
  obtain ⟨begun, hbegun⟩ := (reached_atRest m config).exists_recorded
  rw [generate_eq]
  refine ⟨begun.map (typeBlock m config), ?_, ?_⟩
  · show (atRest m config).calls = _
    rw [hbegun.calls, List.flatMap_def]
  · show List.Forall₂ _ (atRest m config).report.emitted _
    rw [hbegun.emitted, List.forall₂_map_left_iff, List.forall₂_map_right_iff, List.forall₂_same]
    exact fun id _ => typeCalls_inOrder m config (m.node id) _

end SchemaBinding
