import SchemaBinding.Code.Classes
import SchemaBinding.Proofs.Generation.Blocks
import SchemaBinding.Proofs.Text.Occurrence

/-!
# `SchemaBinding.Proofs.Code.Classes`: classes are written one by one

The calls for a type come in a fixed order (`TypeHooks`). While the writer follows them it puts documentation before the
last place that has the words of a class line. The class line comes first of all that is written for a type, so this place
is in the line of the class itself, whatever has been written before. The other calls only collect what the end of the
class writes. So each type has a block of its own, and the code is these blocks in order (`ClassWriter.steps_calls`,
`classCode_eq_blocks`).

The place is the beginning of the class line, unless a name has the words of a class line in it, where the space behind the
name counts (`TypeHooks.block_eq_iff`).
-/

set_option autoImplicit false

namespace SchemaBinding

/-- What a back end is told of one type. -/
structure TypeHooks where
  parent : Option String := none
  name : String
  documentation : Option String := none
  /-- The fields, each with the simple type whose validator follows it. -/
  fields : List (Field × Option SimpleTypeDef) := []
  userMethods : List String := []
  deriving Repr, DecidableEq, Inhabited

namespace TypeHooks

/-- The calls for a field. -/
def entryCalls (entry : Field × Option SimpleTypeDef) : List Call :=
  .field entry.1 :: (entry.2.map Call.validator).toList

/-- The calls for a type, in the order that they are made. -/
def calls (t : TypeHooks) : List Call :=
  [.beginType t.parent t.name] ++ (t.documentation.map Call.documentation).toList ++ t.fields.flatMap entryCalls ++
    [.comparators, .serializeHooks, .deserializeHooks] ++ t.userMethods.map Call.userMethods ++ [.endType]

/-- What a writer of classes writes for the type alone. -/
def block (t : TypeHooks) : String := String.ofList (ClassWriter.steps {} t.calls).output

/-- The line that opens the class. -/
def classLine (t : TypeHooks) : String := Classes.classLine t.parent t.name

/-- The documentation as a comment. -/
def comment (t : TypeHooks) : String := (t.documentation.map Classes.comment).getD ""

/-- The methods that come from a field. -/
def fieldMethods (entry : Field × Option SimpleTypeDef) : List String :=
  Classes.accessors entry.1 ++ (entry.2.map Classes.validator).toList

/-- The members of the class. -/
def members (t : TypeHooks) : List String := t.fields.flatMap fun entry => Classes.members entry.1

/-- The methods of the class. -/
def methods (t : TypeHooks) : List String :=
  t.fields.flatMap fieldMethods ++ [Classes.comparator t.name, Classes.serializer, Classes.deserializer t.name] ++
    t.userMethods.map Text.trim

/-- The members and methods, and the end of the class. -/
def body (t : TypeHooks) : String := Classes.classBody t.members t.methods

/-- No name has the words of a class line in it, not even with the space that comes behind it. -/
def NamesUnmarked (t : TypeHooks) : Prop :=
  ∀ name ∈ t.name :: t.parent.toList, ¬ Classes.classMark.toList <:+: (name ++ " ").toList

/-- The class line with the documentation put into it. -/
def opening (t : TypeHooks) : List Char :=
  match t.documentation with
  | none => t.classLine.toList
  | some text =>
    (Text.insertBeforeLast? Classes.classMark.toList (Classes.comment text).toList t.classLine.toList).getD
      t.classLine.toList

end TypeHooks

/-! ### The calls for one type -/

namespace ClassWriter

theorem steps_append (w : ClassWriter) (first second : List Call) :
    w.steps (first ++ second) = (w.steps first).steps second :=
  List.foldl_append

theorem steps_entryCalls (w : ClassWriter) (fields : List (Field × Option SimpleTypeDef)) :
    w.steps (fields.flatMap TypeHooks.entryCalls) =
      { w with
        members := w.members ++ fields.flatMap fun entry => Classes.members entry.1
        methods := w.methods ++ fields.flatMap TypeHooks.fieldMethods } := by
  induction fields generalizing w with
  | nil => simp [steps]
  | cons entry rest ih =>
      obtain ⟨f, validator⟩ := entry
      rw [List.flatMap_cons, steps_append, ih]
      cases validator <;> simp [steps, step, addMethod, TypeHooks.entryCalls, TypeHooks.fieldMethods]

theorem steps_userMethods (w : ClassWriter) (sources : List String) :
    w.steps (sources.map Call.userMethods) = { w with methods := w.methods ++ sources.map Text.trim } := by
  induction sources generalizing w with
  | nil => simp [steps]
  | cons source rest ih =>
      show steps (w.addMethod (Text.trim source)) (rest.map Call.userMethods) = _
      simp [ih, addMethod]

/-- A class line begins with the words of a class line. -/
theorem classMark_prefix_classLine (parent : Option String) (name : String) :
    Classes.classMark.toList <+: (Classes.classLine parent name).toList := by
  simp only [Classes.classLine, String.toList_append, List.append_assoc]
  exact List.prefix_append _ _

/-- Documentation goes into the class line, whatever stands before that line. -/
theorem document_classLine (front : List Char) (parent : Option String) (name text : String) :
    (Text.insertBeforeLast? Classes.classMark.toList (Classes.comment text).toList
      (front ++ (Classes.classLine parent name).toList)).getD (front ++ (Classes.classLine parent name).toList) =
    front ++ (Text.insertBeforeLast? Classes.classMark.toList (Classes.comment text).toList
      (Classes.classLine parent name).toList).getD (Classes.classLine parent name).toList := by
  rw [Text.insertBeforeLast?_append front (classMark_prefix_classLine parent name).isInfix]
  cases Text.insertBeforeLast? Classes.classMark.toList (Classes.comment text).toList
    (Classes.classLine parent name).toList <;> rfl

theorem steps_opening (w : ClassWriter) (t : TypeHooks) :
    w.steps ([.beginType t.parent t.name] ++ (t.documentation.map Call.documentation).toList) =
      { output := w.output ++ t.opening, className := t.name } := by
  unfold TypeHooks.opening
  cases t.documentation with
  | none => rfl
  | some text =>
      have hplace := document_classLine w.output t.parent t.name text
      simp only [Option.map_some, Option.toList_some, List.singleton_append]
      exact congrArg (fun output => ({ output, className := t.name } : ClassWriter)) hplace

/-- The calls for a type add its block to the output, and leave nothing behind for the next type. -/
theorem steps_calls (w : ClassWriter) (t : TypeHooks) :
    w.steps t.calls = { output := w.output ++ t.opening ++ t.body.toList, className := t.name } := by
  have hstandard : ∀ w : ClassWriter, w.steps [.comparators, .serializeHooks, .deserializeHooks] =
      { w with methods := w.methods ++
        [Classes.comparator w.className, Classes.serializer, Classes.deserializer w.className] } := by
    intro w
    simp [steps, step, addMethod]
  unfold TypeHooks.calls
  rw [steps_append, steps_append, steps_append, steps_append, steps_opening, steps_entryCalls, hstandard,
    steps_userMethods]
  simp [steps, step, append, TypeHooks.body, TypeHooks.members, TypeHooks.methods]

/-- The calls for several types add their blocks. -/
theorem output_steps_types (w : ClassWriter) (types : List TypeHooks) :
    (w.steps (types.flatMap TypeHooks.calls)).output = w.output ++ (String.join (types.map TypeHooks.block)).toList := by
  induction types generalizing w with
  | nil => simp [steps]
  | cons t rest ih =>
      rw [List.flatMap_cons, steps_append, ih, steps_calls]
      simp [TypeHooks.block, steps_calls]

end ClassWriter

/-! ### Where documentation stands -/

namespace TypeHooks

/-- A class line has its words again if and only if a name in it has them. -/
theorem classMark_infix_tail_classLine_iff (t : TypeHooks) :
    Classes.classMark.toList <:+: t.classLine.toList.tail ↔ ¬ t.NamesUnmarked := by
  -- The words begin with a letter that they do not have again.
  have hlead : ∀ d ∈ Classes.classMark.toList.tail, Classes.classMark.toList.head? ≠ some d := by
    simp [Classes.classMark]
  have hline : ∀ rest : List Char, Classes.classMark.toList <:+: (Classes.classMark.toList ++ rest).tail ↔
      Classes.classMark.toList <:+: rest := by
    intro rest
    exact Text.infix_append_of_head?_ne hlead
  -- They have neither the brace behind the names nor the letters between two names, except for some.
  have hend : ∀ name : String, Classes.classMark.toList <:+: name.toList ++ " \x7b\n".toList ↔
      Classes.classMark.toList <:+: (name ++ " ").toList := by
    intro name
    have hbrace : name.toList ++ " \x7b\n".toList = (name ++ " ").toList ++ '\x7b' :: ['\n'] := by simp
    rw [hbrace, Text.infix_append_cons_iff (by decide) (by decide), or_iff_left (by decide)]
  unfold classLine Classes.classLine NamesUnmarked
  simp only [String.toList_append, List.append_assoc]
  rw [hline]
  cases t.parent with
  | none => simpa using hend t.name
  | some parent =>
      have hbetween : t.name.toList ++ (" extends " ++ parent).toList ++ " \x7b\n".toList =
          ((t.name ++ " ").toList ++ "exte".toList) ++ 'n' :: ("ds ".toList ++ (parent.toList ++ " \x7b\n".toList)) := by
        simp
      have hafter : Classes.classMark.toList <:+: "ds ".toList ++ (parent.toList ++ " \x7b\n".toList) ↔
          Classes.classMark.toList <:+: parent.toList ++ " \x7b\n".toList :=
        Text.infix_append_of_head?_ne (by simp [Classes.classMark])
      have hbefore : Classes.classMark.toList <:+: (t.name ++ " ").toList ++ "exte".toList ↔
          Classes.classMark.toList <:+: (t.name ++ " ").toList :=
        Text.infix_append_of_getLast?_ne (by simp [Classes.classMark])
      rw [Option.map_some, Option.getD_some, ← List.append_assoc, hbetween,
        Text.infix_append_cons_iff (by decide) (by decide), hbefore, hafter, hend]
      simp only [Option.toList_some, List.forall_mem_cons, List.not_mem_nil, false_implies, implies_true, and_true,
        String.toList_append]
      rw [← not_or, not_not]

/-- A class line has a place for documentation. -/
theorem exists_place (t : TypeHooks) (new : List Char) :
    ∃ found, Text.insertBeforeLast? Classes.classMark.toList new t.classLine.toList = some found :=
  Option.ne_none_iff_exists'.mp fun hnone =>
    (Text.insertBeforeLast?_eq_none_iff new).mp hnone (ClassWriter.classMark_prefix_classLine t.parent t.name).isInfix

/-- A documented class has its documentation somewhere in its line. -/
theorem exists_opening_eq (t : TypeHooks) :
    ∃ before after, t.classLine.toList = before ++ after ∧ t.opening = before ++ t.comment.toList ++ after := by
  unfold opening comment
  cases t.documentation with
  | none => exact ⟨[], t.classLine.toList, rfl, rfl⟩
  | some text =>
      obtain ⟨found, hfound⟩ := t.exists_place (Classes.comment text).toList
      obtain ⟨before, after, hline, rfl⟩ := Text.exists_of_insertBeforeLast?_eq_some hfound
      exact ⟨before, after, hline, by simp [hfound]⟩

/-- The documentation comes before the line if and only if no name has the words of a class line in it. -/
theorem opening_eq_iff (t : TypeHooks) :
    t.opening = t.comment.toList ++ t.classLine.toList ↔ (t.documentation.isSome → t.NamesUnmarked) := by
  unfold opening comment
  cases t.documentation with
  | none => simp
  | some text =>
      have hprefix : Classes.classMark.toList <+: t.classLine.toList :=
        ClassWriter.classMark_prefix_classLine t.parent t.name
      have hline : t.classLine.toList = 'e' :: t.classLine.toList.tail := by
        obtain ⟨rest, hrest⟩ := hprefix
        rw [← hrest]
        rfl
      obtain ⟨more, hcomment⟩ : ∃ more, (Classes.comment text).toList = '/' :: more :=
        ⟨_, by simp [Classes.comment]; rfl⟩
      -- The documentation has a place, and it is the beginning if the words do not come again.
      obtain ⟨found, hfound⟩ := t.exists_place (Classes.comment text).toList
      have hfirst : Text.insertBeforeLast? Classes.classMark.toList ('/' :: more) ('e' :: t.classLine.toList.tail) =
          some ('/' :: more ++ 'e' :: t.classLine.toList.tail) ↔
            ¬ Classes.classMark.toList <:+: t.classLine.toList.tail :=
        Text.insertBeforeLast?_eq_append_iff (hline ▸ hprefix) (by decide)
      rw [← hline, ← hcomment, hfound, classMark_infix_tail_classLine_iff, not_not, Option.some_inj] at hfirst
      simpa [hfound] using hfirst

/-- A type alone gives its class, with the documentation in or above its line. -/
theorem block_eq (t : TypeHooks) : t.block = String.ofList t.opening ++ t.body := by
  simp [block, ClassWriter.steps_calls]

theorem block_eq_iff (t : TypeHooks) :
    t.block = t.comment ++ t.classLine ++ t.body ↔ (t.documentation.isSome → t.NamesUnmarked) := by
  rw [← t.opening_eq_iff, t.block_eq, String.append_left_inj, ← String.toList_inj, String.toList_ofList,
    String.toList_append]

end TypeHooks

/-- The code for the calls of several types is their blocks below the head of the file. -/
theorem classCode_flatMap_calls (types : List TypeHooks) :
    classCode (types.flatMap TypeHooks.calls) =
      "// " ++ generatedBy ++ "\n\n" ++ Text.trimEnd (String.join (types.map TypeHooks.block)) ++ "\n" := by
  rw [classCode, ClassWriter.code, ClassWriter.output_steps_types, List.nil_append, String.ofList_toList]

/-- **The code is the classes of the types, one after another.** Each class is what its type alone gives, and has its
documentation in its own line or above it. It stands above if and only if no name has the words of a class line in it. -/
theorem classCode_eq_blocks (types : List TypeHooks) :
    classCode (types.flatMap TypeHooks.calls) =
        "// " ++ generatedBy ++ "\n\n" ++ Text.trimEnd (String.join (types.map TypeHooks.block)) ++ "\n" ∧
      ∀ t : TypeHooks,
        (∃ before after, t.classLine = before ++ after ∧ t.block = before ++ t.comment ++ after ++ t.body) ∧
        (t.block = t.comment ++ t.classLine ++ t.body ↔ (t.documentation.isSome → t.NamesUnmarked)) := by
  refine ⟨classCode_flatMap_calls types, fun t => ⟨?_, t.block_eq_iff⟩⟩
  obtain ⟨before, after, hline, hopening⟩ := t.exists_opening_eq
  refine ⟨String.ofList before, String.ofList after, ?_, ?_⟩
  · rw [← String.toList_inj, hline]
    simp
  · rw [t.block_eq, hopening]
    simp [String.append_assoc]

/-- The words of a class line, but for the space at their end. -/
def exportedClass : TypeHooks where
  name := "export class"
  documentation := some "x"

/-- Together with the space behind it, the name has the words of a class line. -/
theorem block_exportedClass :
    (∀ name ∈ exportedClass.name :: exportedClass.parent.toList, ¬ Classes.classMark.toList <:+: name.toList) ∧
      exportedClass.block = "export class " ++ exportedClass.comment ++ "export class \x7b\n" ++ exportedClass.body ∧
      exportedClass.block ≠ exportedClass.comment ++ exportedClass.classLine ++ exportedClass.body := by
  have hopening : String.ofList exportedClass.opening =
      "export class " ++ exportedClass.comment ++ "export class \x7b\n" := by
    decide +kernel
  have hmarked : ¬ exportedClass.NamesUnmarked := fun h => h "export class" (by simp [exportedClass]) (by decide)
  refine ⟨by decide, ?_, fun h => hmarked (exportedClass.block_eq_iff.mp h rfl)⟩
  rw [exportedClass.block_eq, hopening]

/-! ### The classes of a generation -/

namespace TypeHooks

/-- The fields of a type, with the validators that follow them. -/
def ofFields (m : Model) (validated : List String) : List Field → List (Field × Option SimpleTypeDef)
  | [] => []
  | f :: rest =>
    match restriction? m f with
    | some d =>
      if validated.contains d.name then (f, none) :: ofFields m validated rest
      else (f, some d) :: ofFields m (d.name :: validated) rest
    | none => (f, none) :: ofFields m validated rest

/-- What a back end is told of the type of a node. -/
def ofNode (m : Model) (config : Config) (n : Node) (parent : Option Node) : TypeHooks where
  parent := parent.map (·.cleanName)
  name := n.cleanName
  documentation := nonBlank? n.documentation
  fields := ofFields m [] (SchemaBinding.fields m config.accessorStyle n)
  userMethods := (config.methods.filter (·.isFor n.cleanName)).map (·.render n.cleanName)

variable {m : Model} {config : Config}

theorem flatMap_ofFields (validated : List String) (fs : List Field) :
    (ofFields m validated fs).flatMap entryCalls = fieldCalls m validated fs := by
  fun_induction ofFields m validated fs with
  | case1 => rfl
  | case2 | case3 | case4 => simp_all [fieldCalls, entryCalls]

theorem calls_ofNode (n : Node) (parent : Option Node) : (ofNode m config n parent).calls = typeCalls m config n parent := by
  simp [calls, ofNode, typeCalls, flatMap_ofFields, List.map_map, Function.comp_def]

end TypeHooks

/-- The code of a generation has one class for each declaration that it emits, in the same order. -/
theorem classCode_generate (m : Model) (config : Config) :
    ∃ begun : List NodeId, (generate config m).report.emitted = begun.map (fun id => (m.node id).cleanName) ∧
      classCode (generate config m).calls = "// " ++ generatedBy ++ "\n\n" ++
        Text.trimEnd (String.join (begun.map fun id =>
          (TypeHooks.ofNode m config (m.node id) ((parent? m id).map m.node)).block)) ++ "\n" := by
  obtain ⟨begun, hbegun⟩ := (Run.reached_atRest m config).exists_recorded
  have hcalls : (generate config m).calls = begun.flatMap (Run.typeBlock m config) := hbegun.calls
  have htypes : begun.flatMap (Run.typeBlock m config) =
      (begun.map fun id => TypeHooks.ofNode m config (m.node id) ((parent? m id).map m.node)).flatMap
        TypeHooks.calls := by
    rw [List.flatMap_map]
    exact congrArg (List.flatMap · begun) (funext fun id => (TypeHooks.calls_ofNode _ _).symm)
  refine ⟨begun, hbegun.emitted, ?_⟩
  rw [hcalls, htypes, classCode_flatMap_calls, List.map_map]
  rfl

end SchemaBinding
