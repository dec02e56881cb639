import SchemaBinding.Proofs.Builder.Runs
import SchemaBinding.Proofs.Builder.SimpleTypes

/-!
# `SchemaBinding.Proofs.Builder.ValueSpaces`: the content of a simple type

What the content of a simple type says of its values can be read off the tags alone (`ValueSpace.read`): each tag adds to
it, except for those that stand inside of another declaration. A builder that reads the content has come to the same when
the simple type is closed (`Builder.Runs.read_unfinished`). Whole tags leave the frames below the top one as they are
(`Builder.Runs.unfinished_tail`), and give a simple type to no node that is not on top (`Builder.Runs.names_eq`).
-/

set_option autoImplicit false

namespace SchemaBinding

namespace ValueSpace

/-- One event of the content. The number counts the tags that are open from a nested declaration on. -/
def step (builtins : Builtins) : Nat × ValueSpace → Event → Nat × ValueSpace
  | (0, v), .startTag name attributes =>
    if (builtins.tag name).declares attributes then (1, v) else (0, v.take (builtins.tag name) attributes)
  | (depth + 1, v), .startTag _ _ => (depth + 2, v)
  | (depth, v), .endTag _ => (depth - 1, v)
  | state, .text _ => state

/-- What the content of a simple type says of its values. -/
def read (builtins : Builtins) (content : List Event) : ValueSpace := (content.foldl (step builtins) (0, {})).2

end ValueSpace

namespace Builder

variable {b b' : Builder} {events : List Event}

/-! ### Frames below the top one -/

theorem OpensTypes.unfinished_tail {tag : Tag} {attributes : Attributes} {closing : Closing} {s : SimpleTypes}
    (h : b.OpensTypes tag attributes closing s) :
    s.unfinished.tail = if closing.ownsFrame then b.simpleTypes.unfinished else b.simpleTypes.unfinished.tail := by
  cases h with
  | fill howns =>
      rw [if_neg (by simp [howns])]
      unfold filled
      split
      · cases b.simpleTypes.unfinished <;> rfl
      · rfl
  | frame howns => rw [if_pos howns]; rfl
  | simpleType => rfl

/-- A declaration that is read inside of another leaves it as it was. -/
theorem OpensTypes.unfinished_eq {opened inside closed : Builder} {tag : Tag} {name : String} {attributes : Attributes}
    {closing : Closing} {tags : List OpenTag} (hopens : b.OpensTypes tag attributes closing opened.simpleTypes)
    (hinside : inside.simpleTypes.unfinished.tail = opened.simpleTypes.unfinished.tail)
    (hend : (inside.withOpenTags tags).close name closing = .ok closed) :
    if closing.ownsFrame then closed.simpleTypes.unfinished = b.simpleTypes.unfinished
      else closed.simpleTypes.unfinished = inside.simpleTypes.unfinished := by
  have hclosed : closed.simpleTypes.unfinished =
      if closing.ownsFrame then inside.simpleTypes.unfinished.tail else inside.simpleTypes.unfinished :=
    congrArg SimpleTypes.unfinished (simpleTypes_close hend)
  have htail := hopens.unfinished_tail
  by_cases howns : closing.ownsFrame = true
  · rw [if_pos howns] at *
    rw [hclosed, hinside, htail]
  · rw [if_neg howns] at *
    exact hclosed

theorem Runs.unfinished_tail (h : b.Runs events b') :
    b'.simpleTypes.unfinished.tail = b.simpleTypes.unfinished.tail := by
  induction h with
  | nil => rfl
  | @text b b' content rest _ ih =>
      rw [simpleTypes_text] at ih
      exact ih
  | @tree b opened inside closed b' name attributes closing inner rest hstart _ hend _ ihinner ihrest =>
      have hopens := opensTypes_startConstruct hstart
      have hclosed := hopens.unfinished_eq ihinner hend
      have htail := hopens.unfinished_tail
      rw [ihrest]
      by_cases howns : closing.ownsFrame = true
      · rw [if_pos howns] at hclosed
        rw [hclosed]
      · rw [if_neg howns] at hclosed htail
        rw [hclosed, ← htail]
        exact ihinner

/-! ### The simple type on top -/

/-- Tags inside of a nested declaration are passed over. -/
theorem Runs.foldl_step_succ (h : b.Runs events b') (builtins : Builtins) (depth : Nat) (v : ValueSpace) :
    events.foldl (ValueSpace.step builtins) (depth + 1, v) = (depth + 1, v) := by
  induction h generalizing depth with
  | nil => rfl
  | text _ ih => exact ih depth
  | tree _ _ _ _ ihinner ihrest =>
      rw [List.foldl_cons, List.foldl_append, List.foldl_cons]
      show List.foldl _ (ValueSpace.step builtins (List.foldl _ (depth + 1 + 1, v) _) _) _ = _
      rw [ihinner]
      exact ihrest depth

theorem exists_frames_of_unfinished {name : String} {v : ValueSpace} {rest : List (Option (String × ValueSpace))}
    (h : b.simpleTypes.unfinished = some (name, v) :: rest) :
    ∃ d others, b.frames = .simpleType d :: others ∧ d.name = name ∧ d.valueSpace = v ∧
      others.map Frame.simpleType? = rest := by
  obtain ⟨frame, others, hframes, hframe, hrest⟩ := List.map_eq_cons_iff.mp h
  cases frame with
  | simpleType d =>
      obtain ⟨hname, hv⟩ := Prod.mk.inj (Option.some.inj hframe)
      exact ⟨d, others, hframes, hname, hv, hrest⟩
  | node | attributeGroup => cases hframe

/-- What a tag inside of a simple type does to it. -/
theorem OpensTypes.of_inside {tag : Tag} {attributes : Attributes} {closing : Closing} {s : SimpleTypes} {name : String}
    {v : ValueSpace} {rest : List (Option (String × ValueSpace))} (h : b.OpensTypes tag attributes closing s)
    (htop : b.simpleTypes.unfinished = some (name, v) :: rest) (hrest : rest ≠ []) (hdepth : b.attributeDepth = 0) :
    closing ≠ .leaveAttribute ∧
      if tag.declares attributes then closing.ownsFrame = true
      else closing.ownsFrame = false ∧ s.unfinished = some (name, v.take tag attributes) :: rest := by
  obtain ⟨d, others, hframes, rfl, rfl, rfl⟩ := exists_frames_of_unfinished htop
  have hinside : ¬ b.OutsideType := fun houtside => houtside d others hframes
  cases h with
  | fill howns hdeclares hattribute =>
      refine ⟨fun heq => hinside (hattribute heq), ?_⟩
      rw [hdeclares, filled_of_inside hframes hdepth]
      exact ⟨howns, rfl⟩
  | frame howns hdeclares =>
      refine ⟨fun heq => by simp [heq, Closing.ownsFrame] at howns, ?_⟩
      rcases hdeclares with hdeclares | hlength
      · rw [hdeclares]
        exact howns
      · -- There is a frame below that of the simple type.
        have hnone : others = [] := by simpa [hframes] using hlength
        simp [hnone] at hrest
  | simpleType _ houtside => exact absurd houtside hinside

/-- A builder that reads the content of a simple type comes to what the tags say. -/
theorem Runs.read_unfinished (h : b.Runs events b') {name : String} {v : ValueSpace}
    {rest : List (Option (String × ValueSpace))} (htop : b.simpleTypes.unfinished = some (name, v) :: rest)
    (hrest : rest ≠ []) (hdepth : b.attributeDepth = 0) :
    ∃ v', events.foldl (ValueSpace.step b.builtins) (0, v) = (0, v') ∧
      b'.simpleTypes.unfinished = some (name, v') :: rest := by
  induction h generalizing v with
  | nil => exact ⟨v, rfl, htop⟩
  | @text b b' content others _ ih =>
      have hsame := simpleTypes_text b content
      have houtline := outline_text b content
      have hdepth' : (b.text content).attributeDepth = b.attributeDepth :=
        congrFun (congrArg Outline.depth houtline) .leaveAttribute
      have hbuiltins : (b.text content).builtins = b.builtins := congrArg Outline.builtins houtline
      rw [hsame, hdepth', hbuiltins] at ih
      exact ih htop hdepth
  | @tree b opened inside closed b' tag attributes closing inner others hstart hinner hend hafter ihinner ihrest =>
      have hopens := opensTypes_startConstruct hstart
      have houtline : b.outline.Opens _ attributes closing opened.outline := opens_startConstruct hstart
      obtain ⟨hattribute, hcases⟩ := hopens.of_inside htop hrest hdepth
      -- The depth of attributes and the prefix stay the same, since the run returns.
      have hreturns : b.outline.Returns closed.outline := (Runs.tree hstart hinner hend (.nil closed)).returns
      have hbuiltins : closed.builtins = b.builtins := hreturns.builtins
      have hdepth' : closed.attributeDepth = 0 := (hreturns.depth .leaveAttribute rfl).trans hdepth
      rw [hbuiltins] at ihrest
      rw [List.foldl_cons, List.foldl_append, List.foldl_cons]
      by_cases hdeclares : (b.builtins.tag tag).declares attributes = true
      · -- The tag opens a frame, so what is inside of it is not said of the simple type.
        rw [if_pos hdeclares] at hcases
        have hclosed := hopens.unfinished_eq hinner.unfinished_tail hend
        rw [if_pos hcases, htop] at hclosed
        have hskip : ValueSpace.step b.builtins (0, v) (.startTag tag attributes) = (0 + 1, v) := if_pos hdeclares
        rw [hskip, hinner.foldl_step_succ]
        exact ihrest hclosed hdepth'
      · -- The tag has its say, and then what is inside of it.
        rw [if_neg hdeclares] at hcases
        obtain ⟨howns, hopened⟩ := hcases
        have hopenedDepth : opened.attributeDepth = 0 := by
          have hsame := houtline.depth (c := .leaveAttribute) rfl
          rw [if_neg (by simpa using hattribute)] at hsame
          exact hsame.trans hdepth
        have hopenedBuiltins : opened.builtins = b.builtins := houtline.builtins
        obtain ⟨v', hfold, hinside⟩ := ihinner hopened hopenedDepth
        have hclosed := hopens.unfinished_eq hinner.unfinished_tail hend
        rw [howns, if_neg Bool.false_ne_true, hinside] at hclosed
        have htake : ValueSpace.step b.builtins (0, v) (.startTag tag attributes) =
            (0, v.take (b.builtins.tag tag) attributes) := if_neg hdeclares
        rw [builtins_withOpenTags, hopenedBuiltins] at hfold
        rw [htake, hfold]
        exact ihrest hclosed hdepth'

/-! ### The names of simple types in nodes -/

theorem currentNode?_eq_some_iff {id : NodeId} :
    b.currentNode? = some id ↔ id ≠ Model.root ∧ b.outline.frames.head? = some (.node id) := by
  unfold currentNode? outline
  cases b.frames with
  | nil => simp
  | cons frame rest =>
      cases frame with
      | node top =>
          show (if top = Model.root then none else some top) = some id ↔
            id ≠ Model.root ∧ some (FrameShape.node top) = some (.node id)
          by_cases htop : top = Model.root
          · simp only [htop, if_true, reduceCtorEq, false_iff, not_and]
            intro hid heq
            cases heq
            exact hid rfl
          · simp only [htop, if_false, Option.some.injEq, FrameShape.node.injEq, iff_and_self]
            intro heq
            exact heq ▸ htop
      | simpleType | attributeGroup => simp [Frame.shape]

/-- Which node is on top can be seen from the frames alone. -/
theorem currentNode?_congr (h : b'.outline.frames = b.outline.frames) : b'.currentNode? = b.currentNode? := by
  refine Option.ext fun id => ?_
  rw [currentNode?_eq_some_iff, currentNode?_eq_some_iff, h]

/-- A start tag gives the name of a simple type to the node on top only. -/
theorem OpensTypes.names_eq {tag : Tag} {attributes : Attributes} {closing : Closing} {s : SimpleTypes}
    (h : b.OpensTypes tag attributes closing s) {id : NodeId} (hid : tag = .simpleType → b.currentNode? ≠ some id) :
    s.names id = b.simpleTypes.names id := by
  cases h with
  | fill =>
      unfold filled
      split <;> rfl
  | frame => rfl
  | simpleType htag _ hnames => exact hnames id (hid htag)

/-- A node that has been there before is not on top right after another frame has been opened. -/
theorem currentNode?_ne_of_opens {opened : Builder} {tag : Tag} {attributes : Attributes} {closing : Closing} {id : NodeId}
    (h : b.outline.Opens tag attributes closing opened.outline) (hheld : b.model.Holds id)
    (hid : b.currentNode? ≠ some id) : opened.currentNode? ≠ some id := by
  by_cases howns : closing.ownsFrame = true
  · intro hcurrent
    obtain ⟨rest, hframes⟩ := List.head?_eq_some_iff.mp (currentNode?_eq_some_iff.mp hcurrent).2
    generalize opened.outline = o at h hframes
    cases h with
    | skip | choice => cases howns
    | enter _ hleave => simp [(Closing.of_isLeave hleave).1] at howns
    | node =>
        -- The frame on top is that of a new node.
        obtain ⟨hnode, -⟩ := List.cons_eq_cons.mp hframes
        cases hnode
        exact Nat.lt_irrefl _ hheld
    | simpleType | attributeGroup => cases (List.cons_eq_cons.mp hframes).1
  · have hframes := h.frames_eq
    rw [if_neg howns] at hframes
    rwa [currentNode?_congr hframes]

/-- Whole tags inside of a simple type or of another node give no name to a node below. -/
theorem Runs.names_eq (h : b.Runs events b') {id : NodeId} (hheld : b.model.Holds id) (hid : b.currentNode? ≠ some id) :
    b'.simpleTypes.names id = b.simpleTypes.names id := by
  induction h with
  | nil => rfl
  | @text b b' content rest _ ih =>
      have houtline := outline_text b content
      have hsize : (b.text content).model.nodes.size = b.model.nodes.size := congrArg (·.size) houtline
      have hcurrent := currentNode?_congr (congrArg (·.frames) houtline)
      have hnames := congrArg (·.names id) (simpleTypes_text b content)
      exact (ih (Nat.lt_of_lt_of_eq hheld hsize.symm) (hcurrent ▸ hid)).trans hnames
  | @tree b opened inside closed b' name attributes closing inner rest hstart hinner hend _ ihinner ihrest =>
      have hopens := opensTypes_startConstruct hstart
      have houtline : b.outline.Opens _ attributes closing opened.outline := opens_startConstruct hstart
      have hreturns : b.outline.Returns closed.outline := (Runs.tree hstart hinner hend (.nil closed)).returns
      have hopened : opened.model.Holds id := Nat.lt_of_lt_of_le hheld houtline.size_bare.1
      have hnew : opened.currentNode? ≠ some id := currentNode?_ne_of_opens houtline hheld hid
      have hclosed : closed.model.Holds id := Nat.lt_of_lt_of_le hheld hreturns.size_le
      have hend' : closed.simpleTypes.names id = inside.simpleTypes.names id :=
        congrArg (·.names id) (simpleTypes_close hend)
      rw [ihrest hclosed (currentNode?_congr hreturns.frames ▸ hid), hend',
        ihinner hopened hnew]
      exact hopens.names_eq fun _ => hid

end Builder

end SchemaBinding
