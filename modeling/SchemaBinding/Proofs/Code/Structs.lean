import Mathlib.Data.List.Forall2
import SchemaBinding.Code.Structs
import SchemaBinding.Proofs.Builder.Step
import SchemaBinding.Proofs.Generation.Calls

/-!
# `SchemaBinding.Proofs.Code.Structs`: how blocks of calls become structs

Between the beginning and the end of a type a call adds a field to the open struct, or leaves its name and its fields alone
(`Struct.After`). So a block of calls becomes one struct (`Struct.MadeOf`, `StructWriter.steps_block`), and a file has one
struct for each block, in order (`exists_structs_madeOf`).

A struct gives some of its fields a name in documents (`Struct.renames`). These are the names that the marks of the fields
in its block give (`Field.renames`, `exists_structs_of_blocks`).
-/

set_option autoImplicit false

namespace SchemaBinding

/-- The name in documents that a mark gives. -/
def FieldMark.rename? : FieldMark → Option String
  | rename name => some name
  | _ => none

/-- The names in documents of the fields of a struct, in order. -/
def Struct.renames (s : Struct) : List String :=
  s.fields.flatMap fun f => f.marks.filterMap FieldMark.rename?

/-- The names in documents that the marks of a field give. -/
def Field.renames (f : Field) : List String := (Structs.fieldMarks f).filterMap FieldMark.rename?

/-- The names in documents that a call says. -/
def Call.renames : Call → List String
  | field f => f.renames
  | _ => []

/-- A struct has the names that calls say, and its marks are shown if a call asks for it. -/
def Struct.Follows (s : Struct) (calls : List Call) : Prop :=
  s.renames = calls.flatMap Call.renames ∧ (.serializeHooks ∈ calls → s.isMarked = true)

namespace Structs

/-- A field adds one field to the struct, whose type is that of the values of the field. -/
theorem fields_withField {s s' : Struct} {f : Field} (h : withField s f = .ok s') :
    ∃ name value, Identifier.ofField f.name = .ok name ∧ valueType s.name f = .ok value ∧
      s'.fields = s.fields ++ [⟨f.documentation.map (" " ++ ·), fieldMarks f, name, fieldType f value⟩] ∧
      s'.name = s.name ∧ s'.isMarked = s.isMarked := by
  obtain ⟨name, hname, h⟩ := exists_of_bind_eq_ok h
  obtain ⟨value, hvalue, h⟩ := exists_of_bind_eq_ok h
  obtain ⟨methods, -, h⟩ := exists_of_bind_eq_ok h
  cases h
  exact ⟨name, value, hname, hvalue, rfl, rfl, rfl⟩

theorem fields_withValidator {s s' : Struct} {d : SimpleTypeDef} (h : withValidator s d = .ok s') :
    s'.fields = s.fields ∧ s'.name = s.name ∧ s'.isMarked = s.isMarked := by
  obtain ⟨name, -, h⟩ := exists_of_bind_eq_ok h
  obtain ⟨checks, -, h⟩ := exists_of_bind_eq_ok h
  cases h
  exact ⟨rfl, rfl, rfl⟩

/-- A new struct has the identifier of its type, and no other field than that for its base. -/
theorem fields_opened {base : Option String} {name : String} {s : Struct} (h : opened base name = .ok s) :
    ∃ parent, base.mapM Identifier.ofType = .ok parent ∧ Identifier.ofType name = .ok s.name ∧
      s.fields = (parent.map baseField).toList := by
  obtain ⟨parent, hparent, h⟩ := exists_of_bind_eq_ok h
  obtain ⟨name, hname, h⟩ := exists_of_bind_eq_ok h
  cases h
  exact ⟨parent, hparent, hname, rfl⟩

end Structs

/-! ### From calls to structs -/

namespace Struct

/-- What a call inside of a type makes of the open struct. -/
inductive After (s : Struct) : Call → Struct → Prop where
  | field {f : Field} {s' : Struct} (h : Structs.withField s f = .ok s') : After s (.field f) s'
  | other {c : Call} {s' : Struct} (hc : ∀ f, c ≠ .field f) (hfields : s'.fields = s.fields) (hname : s'.name = s.name)
      (hmarked : s.isMarked = true ∨ c = .serializeHooks → s'.isMarked = true) : After s c s'

/-- The same for several calls. -/
inductive AfterAll : Struct → List Call → Struct → Prop where
  | nil (s : Struct) : AfterAll s [] s
  | cons {s s₁ s₂ : Struct} {c : Call} {calls : List Call} (hfirst : s.After c s₁) (hrest : s₁.AfterAll calls s₂) :
      AfterAll s (c :: calls) s₂

/-- The struct that a block of calls becomes. -/
inductive MadeOf : List Call → Struct → Prop where
  | mk {base : Option String} {name : String} {body : List Call} {s₀ s : Struct}
      (hbody : ∀ c ∈ body, c.isBoundary = false) (hopened : Structs.opened base name = .ok s₀) (h : s₀.AfterAll body s) :
      MadeOf (.beginType base name :: (body ++ [.endType])) s

variable {s s' : Struct}

theorem After.name_eq {c : Call} (h : s.After c s') : s'.name = s.name := by
  cases h with
  | field h =>
      obtain ⟨-, -, -, -, -, hname, -⟩ := Structs.fields_withField h
      exact hname
  | other _ _ hname => exact hname

theorem AfterAll.name_eq {calls : List Call} (h : s.AfterAll calls s') : s'.name = s.name := by
  induction h with
  | nil => rfl
  | cons hfirst _ ih => exact ih.trans hfirst.name_eq

theorem After.renames_eq {c : Call} (h : s.After c s') : s'.renames = s.renames ++ c.renames := by
  cases h with
  | field h =>
      obtain ⟨name, value, -, -, hfields, -, -⟩ := Structs.fields_withField h
      simp [renames, hfields, Call.renames, Field.renames]
  | other hc hfields =>
      cases c with
      | field f => exact absurd rfl (hc f)
      | _ => simp [renames, hfields, Call.renames]

theorem AfterAll.renames_eq {calls : List Call} (h : s.AfterAll calls s') :
    s'.renames = s.renames ++ calls.flatMap Call.renames := by
  induction h with
  | nil => simp
  | cons hfirst _ ih => simp [ih, hfirst.renames_eq]

theorem After.isMarked {c : Call} (h : s.After c s') (hmarked : s.isMarked = true ∨ c = .serializeHooks) :
    s'.isMarked = true := by
  cases h with
  | field h =>
      obtain ⟨-, -, -, -, -, -, hsame⟩ := Structs.fields_withField h
      exact hsame.trans (hmarked.resolve_right (by simp))
  | other _ _ _ h => exact h hmarked

/-- The marks are shown from the call on which shows them. -/
theorem AfterAll.isMarked {calls : List Call} (h : s.AfterAll calls s')
    (hmarked : s.isMarked = true ∨ .serializeHooks ∈ calls) : s'.isMarked = true := by
  induction h with
  | nil => exact hmarked.resolve_right List.not_mem_nil
  | cons hfirst _ ih =>
      rcases hmarked with hmarked | hmem
      · exact ih (Or.inl (hfirst.isMarked (Or.inl hmarked)))
      · rcases List.mem_cons.mp hmem with hcall | hmem
        · exact ih (Or.inl (hfirst.isMarked (Or.inr hcall.symm)))
        · exact ih (Or.inr hmem)

/-- A struct has the names that the calls of its block say. -/
theorem MadeOf.follows {block : List Call} (h : MadeOf block s) : s.Follows block := by
  cases h with
  | mk hbody hopened h =>
      obtain ⟨parent, -, -, hfields⟩ := Structs.fields_opened hopened
      -- The field that holds the base has no name in documents.
      have hnone : ∀ s₀ : Struct, s₀.fields = (parent.map Structs.baseField).toList → s₀.renames = [] := by
        intro s₀ hs₀
        rw [renames, hs₀]
        cases parent <;> rfl
      refine ⟨?_, fun hmem => h.isMarked (Or.inr (by simpa using hmem))⟩
      simp [h.renames_eq, hnone _ hfields, Call.renames]

end Struct

namespace StructWriter

variable {w w' : StructWriter} {s : Struct}

theorem current_modify (hopen : w.current = some s) (f : Struct → Struct) : (w.modify f).current = some (f s) :=
  congrArg (Option.map f) hopen

/-- A call inside of a type changes the open struct alone. -/
theorem step_inside {c : Call} (hinside : c.isBoundary = false) (hopen : w.current = some s) (h : w.step c = .ok w') :
    ∃ s', w'.current = some s' ∧ w'.structs = w.structs ∧ s.After c s' := by
  unfold step at h
  cases c with
  | beginType | endType => cases hinside
  | documentation | comparators | userMethods | serializeHooks | deserializeHooks =>
      cases h
      exact ⟨_, current_modify hopen _, rfl, .other (by simp) rfl rfl (by simp)⟩
  | field f =>
      rw [hopen] at h
      obtain ⟨s', hfield, h⟩ := exists_of_bind_eq_ok h
      cases h
      exact ⟨s', rfl, rfl, .field hfield⟩
  | validator d =>
      rw [hopen] at h
      obtain ⟨s', hvalidator, h⟩ := exists_of_bind_eq_ok h
      cases h
      obtain ⟨hfields, hname, hmarked⟩ := Structs.fields_withValidator hvalidator
      exact ⟨s', rfl, rfl, .other (by simp) hfields hname (by simp [hmarked])⟩

theorem steps_cons {c : Call} {calls : List Call} (h : w.steps (c :: calls) = .ok w') :
    ∃ next, w.step c = .ok next ∧ next.steps calls = .ok w' :=
  exists_of_bind_eq_ok h

theorem steps_append {first second : List Call} (h : w.steps (first ++ second) = .ok w') :
    ∃ next, w.steps first = .ok next ∧ next.steps second = .ok w' :=
  exists_of_bind_eq_ok (List.foldlM_append.symm.trans h)

/-- The same for all calls inside of a type. -/
theorem steps_inside {calls : List Call} (hinside : ∀ c ∈ calls, c.isBoundary = false) (hopen : w.current = some s)
    (h : w.steps calls = .ok w') :
    ∃ s', w'.current = some s' ∧ w'.structs = w.structs ∧ s.AfterAll calls s' := by
  induction calls generalizing w s with
  | nil =>
      cases h
      exact ⟨s, hopen, rfl, .nil s⟩
  | cons c rest ih =>
      obtain ⟨next, hfirst, hrest⟩ := steps_cons h
      obtain ⟨s₁, hopen₁, hstructs₁, hafter₁⟩ := step_inside (hinside c (List.mem_cons_self ..)) hopen hfirst
      obtain ⟨s₂, hopen₂, hstructs₂, hafter₂⟩ := ih (fun c hc => hinside c (List.mem_cons_of_mem _ hc)) hopen₁ hrest
      exact ⟨s₂, hopen₂, hstructs₂.trans hstructs₁, .cons hafter₁ hafter₂⟩

/-- A block of calls becomes one struct. -/
theorem steps_block {base : Option String} {name : String} {block : List Call} (hblock : Call.IsBlock base name block)
    (h : w.steps block = .ok w') : ∃ s, w'.structs = w.structs ++ [s] ∧ Struct.MadeOf block s := by
  -- A block is the beginning of a type, calls inside of it, and its end.
  obtain ⟨body, hbody⟩ := hblock
  obtain ⟨w₁, hbegin, h⟩ := steps_cons h
  obtain ⟨w₂, hinside, h⟩ := steps_append h
  obtain ⟨w₃, hend, h⟩ := steps_cons h
  cases h
  obtain ⟨s₁, hopened, hbegin⟩ := exists_of_bind_eq_ok hbegin
  cases hbegin
  obtain ⟨s₂, hopen, hstructs, hafter⟩ := steps_inside hbody rfl hinside
  cases hend
  exact ⟨s₂, by simp [hstructs, hopen], .mk hbody hopened hafter⟩

/-- Blocks of calls become one struct each. -/
theorem steps_blocks {α : Type} {entries : List α} {block : α → List Call}
    (hblock : ∀ entry ∈ entries, ∃ base name, Call.IsBlock base name (block entry))
    (h : w.steps (entries.flatMap block) = .ok w') :
    ∃ structs, w'.structs = w.structs ++ structs ∧
      List.Forall₂ (fun entry s => Struct.MadeOf (block entry) s) entries structs := by
  induction entries generalizing w with
  | nil =>
      cases h
      exact ⟨[], by simp, .nil⟩
  | cons entry rest ih =>
      obtain ⟨next, hfirst, hrest⟩ := steps_append h
      obtain ⟨base, name, hentry⟩ := hblock entry (List.mem_cons_self ..)
      obtain ⟨s, hstructs, hs⟩ := steps_block hentry hfirst
      obtain ⟨structs, hlater, hall⟩ := ih (fun e he => hblock e (List.mem_cons_of_mem _ he)) hrest
      exact ⟨s :: structs, by simp [hlater, hstructs], .cons hs hall⟩

end StructWriter

section file

variable {α : Type} {entries : List α} {block : α → List Call} {file : StructFile}

/-- A file has one struct for each block of calls, in the same order. -/
theorem exists_structs_madeOf (hblock : ∀ entry ∈ entries, ∃ base name, Call.IsBlock base name (block entry))
    (h : structFile (entries.flatMap block) = .ok file) :
    List.Forall₂ (fun entry s => Struct.MadeOf (block entry) s) entries file.structs := by
  obtain ⟨w, hsteps, rfl⟩ := exists_of_map_eq_ok h
  obtain ⟨structs, hall, hstructs⟩ := StructWriter.steps_blocks hblock hsteps
  have hfile : w.file.structs = structs := hall
  rwa [hfile]

/-- Each of the structs has the names that its block says. -/
theorem exists_structs_of_blocks (hblock : ∀ entry ∈ entries, ∃ base name, Call.IsBlock base name (block entry))
    (h : structFile (entries.flatMap block) = .ok file) :
    List.Forall₂ (fun entry s => s.Follows (block entry)) entries file.structs :=
  (exists_structs_madeOf hblock h).imp fun _ _ hs => hs.follows

end file

end SchemaBinding
