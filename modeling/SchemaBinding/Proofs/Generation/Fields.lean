import SchemaBinding.Binding.Call

/-!
# `SchemaBinding.Proofs.Generation.Fields`: which fields a type has, and why

The fields that a back end is told of are those of the type (`field_mem_typeCalls`). Two kinds of them depend on what
resolution has found. A type has the field for the name of the actual type if and only if it is marked as extended
(`extensionField_mem_fields`). A field of a complex type belongs to a child whose own type is named
(`exists_child_of_complex`).
-/

set_option autoImplicit false

namespace SchemaBinding

variable {m : Model} {style : AccessorStyle}

/-- Every field is told, whether a validator follows it or not. -/
theorem field_mem_fieldCalls {validated : List String} {fs : List Field} {f : Field} :
    .field f ∈ fieldCalls m validated fs ↔ f ∈ fs := by
  induction fs generalizing validated with
  | nil => simp [fieldCalls]
  | cons first rest ih =>
      unfold fieldCalls
      split
      · split <;> simp [ih]
      · simp [ih]

/-- The fields in the calls for a type are the fields of the type. -/
theorem field_mem_typeCalls {config : Config} {n : Node} {base : Option Node} {f : Field} :
    .field f ∈ typeCalls m config n base ↔ f ∈ fields m config.accessorStyle n := by
  simp [typeCalls, field_mem_fieldCalls]

/-- The field that a call tells of. -/
def Call.field? : Call → Option Field
  | .field f => some f
  | _ => none

theorem filterMap_fieldCalls (m : Model) (validated : List String) (fs : List Field) :
    (fieldCalls m validated fs).filterMap Call.field? = fs := by
  fun_induction fieldCalls m validated fs with
  | case1 => rfl
  | case2 _ f rest d hd hseen ih => exact congrArg (f :: ·) ih
  | case3 _ f rest d hd hseen ih => exact congrArg (f :: ·) ih
  | case4 _ f rest hd ih => exact congrArg (f :: ·) ih

/-- The calls for a type tell of its fields, in order. -/
theorem filterMap_typeCalls (config : Config) (n : Node) (base : Option Node) :
    (typeCalls m config n base).filterMap Call.field? = fields m config.accessorStyle n := by
  have hmethods : ∀ specs : List MethodSpec,
      (specs.map fun spec => Call.userMethods (spec.render n.cleanName)).filterMap Call.field? = [] := by
    intro specs
    rw [List.filterMap_map]
    exact List.filterMap_eq_nil_iff.mpr fun _ _ => rfl
  have hdocumentation : ((nonBlank? n.documentation).map Call.documentation).toList.filterMap Call.field? = [] := by
    cases nonBlank? n.documentation <;> rfl
  simp only [typeCalls, List.filterMap_append, filterMap_fieldCalls, hmethods, hdocumentation]
  show [] ++ [] ++ fields m config.accessorStyle n ++ [] ++ [] ++ [] = _
  simp only [List.nil_append, List.append_nil]

/-- The field of a child stands for wildcards, or it is the field of an element. -/
theorem mem_childFields {wildcardSeen : Bool} {children : List Node} {f : Field}
    (h : f ∈ childFields m style wildcardSeen children) :
    ∃ child ∈ children, f = wildcardField style child ∨ f = elementField m style child := by
  fun_induction childFields m style wildcardSeen children with
  | case1 => cases h
  | case2 child rest _ ih =>
      obtain ⟨x, hx, hf⟩ := ih h
      exact ⟨x, List.mem_cons_of_mem _ hx, hf⟩
  | case3 _ child rest _ _ ih =>
      rcases List.mem_cons.mp h with rfl | h
      · exact ⟨child, List.mem_cons_self, Or.inl rfl⟩
      · obtain ⟨x, hx, hf⟩ := ih h
        exact ⟨x, List.mem_cons_of_mem _ hx, hf⟩
  | case4 _ child rest _ ih =>
      rcases List.mem_cons.mp h with rfl | h
      · exact ⟨child, List.mem_cons_self, Or.inr rfl⟩
      · obtain ⟨x, hx, hf⟩ := ih h
        exact ⟨x, List.mem_cons_of_mem _ hx, hf⟩

/-! ### The name of the actual type -/

/-- The field for the name of the actual type. -/
def extensionField (style : AccessorStyle) : Field :=
  plainField style "extensiontype_" .extensionType (.primitive .string)

theorem extensionField_mem_contentFields {n : Node} :
    extensionField style ∈ contentFields m style n ↔ n.isExtended = true := by
  unfold contentFields extensionField
  split <;> split <;> split <;> simp_all [plainField]

/-- A type has the field for the name of the actual type if and only if it is marked as extended. -/
theorem extensionField_mem_fields {n : Node} : extensionField style ∈ fields m style n ↔ n.isExtended = true := by
  unfold fields
  rw [List.mem_append, List.mem_append, extensionField_mem_contentFields]
  refine ⟨?_, Or.inr⟩
  -- The fields of children and of attributes are of other kinds.
  rintro ((hchild | hattribute) | hextended)
  · obtain ⟨child, -, hf | hf⟩ := mem_childFields hchild
    · cases congrArg Field.kind hf
    · cases congrArg Field.kind hf
  · obtain ⟨d, -, hf⟩ := List.mem_map.mp hattribute
    cases congrArg Field.kind hf
  · exact hextended

/-! ### Complex types -/

theorem type_of_mem_contentFields {n : Node} {f : Field} (h : f ∈ contentFields m style n) :
    ∃ p, f.type = .primitive p := by
  unfold contentFields at h
  simp only [List.mem_append] at h
  rcases h with (h | h) | h <;> split at h
  all_goals first | cases List.not_mem_nil h | exact ⟨_, congrArg Field.type (List.mem_singleton.mp h)⟩

/-- The clean name of the declaration that is registered under a name, or the name itself. -/
def registeredCleanName (m : Model) (name : String) : String :=
  ((m.element? name).map fun id => (m.node id).cleanName).getD name

theorem exists_name_of_fieldType {type : Option ResolvedType} {cleanName : String}
    (h : fieldType m type = .complex cleanName) :
    ∃ name, type = some (.named name) ∧ cleanName = registeredCleanName m name := by
  unfold fieldType at h
  split at h
  · cases h
  · rename_i name
    refine ⟨name, rfl, ?_⟩
    unfold registeredCleanName
    split at h
    · rename_i id hid
      rw [hid]
      exact (FieldType.complex.inj h).symm
    · rename_i hnone
      rw [hnone]
      exact (FieldType.complex.inj h).symm
  · cases h
  · cases h

/-- The fields of elements are those of the children that are no wildcards. -/
theorem elementField_mem_childFields {wildcardSeen : Bool} {children : List Node} {f : Field}
    (h : f.type ≠ .any) :
    f ∈ childFields m style wildcardSeen children ↔
      ∃ child ∈ children, child.isWildcard = false ∧ f = elementField m style child := by
  have hother : ∀ child, f ≠ wildcardField style child := by
    rintro child rfl
    exact h rfl
  fun_induction childFields m style wildcardSeen children with
  | case1 => simp
  | case2 child rest hwildcard ih => simp [ih, hwildcard]
  | case3 _ child rest hwildcard _ ih => simp [ih, hwildcard, hother]
  | case4 _ child rest hwildcard ih => simp [ih, hwildcard]

/-- The fields of complex types are fields of elements. -/
theorem mem_fields_iff_of_complex {n : Node} {f : Field} {cleanName : String} (hf : f.type = .complex cleanName) :
    f ∈ fields m style n ↔
      ∃ child ∈ n.children, (m.node child).isWildcard = false ∧ f = elementField m style (m.node child) := by
  have hattribute : f ∉ n.attributes.values.map (attributeField style) := by
    intro h
    obtain ⟨d, -, rfl⟩ := List.mem_map.mp h
    cases hf
  have hcontent : f ∉ contentFields m style n := by
    intro h
    obtain ⟨p, hp⟩ := type_of_mem_contentFields h
    rw [hp] at hf
    cases hf
  unfold fields
  rw [List.mem_append, List.mem_append, or_iff_left hcontent, or_iff_left hattribute,
    elementField_mem_childFields (by simp [hf])]
  constructor
  · rintro ⟨_, hmem, helement⟩
    obtain ⟨child, hchild, rfl⟩ := List.mem_map.mp hmem
    exact ⟨child, hchild, helement⟩
  · rintro ⟨child, hchild, helement⟩
    exact ⟨m.node child, List.mem_map_of_mem hchild, helement⟩

/-- A field of a complex type belongs to a child with a named type. -/
theorem exists_child_of_complex {n : Node} {f : Field} (h : f ∈ fields m style n) {cleanName : String}
    (hf : f.type = .complex cleanName) :
    ∃ child ∈ n.children, ∃ name, (m.node child).resolvedType = some (.named name) ∧
      cleanName = registeredCleanName m name := by
  obtain ⟨child, hchild, -, rfl⟩ := (mem_fields_iff_of_complex hf).mp h
  exact ⟨child, hchild, exists_name_of_fieldType hf⟩

end SchemaBinding
