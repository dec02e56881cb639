import Mathlib.Logic.Relation
import SchemaBinding.Proofs.Builder.Runs

/-!
# `SchemaBinding.Proofs.Builder.Wrappers`: wrappers say nothing

Some tags stand around declarations and say nothing themselves: `sequence`, `all` and `complexContent`, and whatever is no
construct of a schema. A start tag of such a wrapper changes nothing but the open tags of a builder, and its end tag
changes them back (`Builder.startTag_wrapper`, `Builder.endTag_nothing`). In between, other open tags make no difference
(`Builder.Feeds.spans`). So the tags of a wrapper can be left out, and the builder comes to the same end. Texts
have nothing to say about where they are cut (`Builder.feedAll_texts`).

`Rewrites` lists what may be done to the events of a document in one place, and `Model.ofEvents_of_rewrites` says that
what is built stays the same, however often that is done.
-/

set_option autoImplicit false

namespace SchemaBinding

/-- Whether tags of a kind do nothing wherever they stand. -/
def Tag.isWrapper : Tag → Bool
  | sequence | all | complexContent | other => true
  | _ => false

/-- One change of events that leaves what they say as it is. -/
inductive Rewrites (builtins : Builtins) : List Event → List Event → Prop where
  /-- The tags of a wrapper are left out. There is a start tag in front of them, so they are not those of the root. -/
  | unwrap {before inner after : List Event} {name : String} {attributes : Attributes}
      (hroot : ∃ n a, Event.startTag n a ∈ before) (hwrapper : (builtins.tag name).isWrapper = true)
      (hinner : Balanced (inner.filter Event.isTag)) :
      Rewrites builtins (before ++ .startTag name attributes :: (inner ++ .endTag name :: after))
        (before ++ (inner ++ after))
  /-- Texts that follow each other are cut in other places. -/
  | recut {before after : List Event} {old new : List String} (hold : old ≠ []) (hnew : new ≠ [])
      (hjoin : String.join old = String.join new) :
      Rewrites builtins (before ++ (old.map .text ++ after)) (before ++ (new.map .text ++ after))

namespace Builder

variable {b b' : Builder} {name : String} {attributes : Attributes} {events : List Event}

/-! ### Wrappers -/

/-- A start tag of a wrapper changes nothing but the open tags. -/
theorem startTag_wrapper (hseen : b.seenRoot = true) (hwrapper : (b.builtins.tag name).isWrapper = true)
    (h : b.startTag name attributes = .ok b') : b' = b.withOpenTags (⟨name, .nothing⟩ :: b.openTags) := by
  have hconstruct : b.startConstruct (b.builtins.tag name) name attributes = .ok (b, .nothing) := by
    unfold startConstruct
    generalize b.builtins.tag name = tag at hwrapper
    cases tag <;> first | rfl | cases hwrapper
  obtain ⟨opened, closing, hstart, rfl⟩ := exists_of_startTag hseen h
  rw [hconstruct] at hstart
  cases hstart
  rfl

/-- The end tag of a wrapper changes nothing but the open tags. -/
theorem endTag_nothing {rest : List OpenTag} (htop : b.openTags = ⟨name, .nothing⟩ :: rest)
    (h : b.endTag name = .ok b') : b' = b.withOpenTags rest := by
  obtain ⟨closing, rest', hopen, hclose⟩ := exists_of_endTag h
  cases htop.symm.trans hopen
  cases hclose
  rfl

/-- Without the tags of a wrapper, what is inside of it is taken in as before. -/
theorem feedAll_unwrap {inner : List Event} (hseen : b.seenRoot = true)
    (hwrapper : (b.builtins.tag name).isWrapper = true) (hinner : Balanced (inner.filter Event.isTag))
    (h : b.feedAll (.startTag name attributes :: (inner ++ [.endTag name])) = .ok b') :
    b.feedAll inner = .ok b' := by
  obtain ⟨b₁, hstart, h⟩ := exists_of_feedAll_cons h
  obtain ⟨b₂, h₂, h⟩ := exists_of_feedAll_append h
  obtain ⟨b₃, hend, h⟩ := exists_of_feedAll_cons h
  cases h
  have hb₁ : b₁ = b.withOpenTags (⟨name, .nothing⟩ :: b.openTags) := startTag_wrapper hseen hwrapper hstart
  obtain ⟨hopen, hfeed⟩ := (feeds_of_balanced hinner h₂).spans
  have hb₃ : b' = b₂.withOpenTags b.openTags := endTag_nothing (hopen.trans (congrArg openTags hb₁)) hend
  have hlast := hfeed b.openTags
  rw [hb₁, withOpenTags_withOpenTags, withOpenTags_openTags] at hlast
  rw [hb₃]
  exact hlast

/-! ### Texts -/

theorem modifyNode_modifyNode (b : Builder) (id : NodeId) (f g : Node → Node) :
    (b.modifyNode id f).modifyNode id g = b.modifyNode id fun n => g (f n) := by
  have hnodes : (b.model.nodes.modify id.index f).modify id.index g =
      b.model.nodes.modify id.index fun n => g (f n) := by
    refine Array.ext (by simp) fun i _ _ => ?_
    by_cases hi : id.index = i <;> simp [Array.getElem_modify, hi]
  show b.modifyModel (fun m => { m with nodes := (m.nodes.modify id.index f).modify id.index g }) = _
  rw [modifyModel, hnodes]
  rfl

theorem modifyCurrent_modifyCurrent (b : Builder) (f g : Node → Node) :
    (b.modifyCurrent f).modifyCurrent g = b.modifyCurrent fun n => g (f n) := by
  cases hcurrent : b.currentNode? with
  | none => simp [modifyCurrent, hcurrent]
  | some id =>
      have hcurrent' : (b.modifyNode id f).currentNode? = some id := hcurrent
      simp [modifyCurrent, hcurrent, hcurrent', modifyNode_modifyNode]

theorem modifyCurrent_eq (b : Builder) (f : Node → Node) :
    b.modifyCurrent f = { b with model := (b.modifyCurrent f).model } := by
  unfold modifyCurrent
  split <;> rfl

theorem text_text (b : Builder) (first second : String) :
    (b.text first).text second = b.text (first ++ second) := by
  by_cases hsilent : (b.documentationDepth = 0 || 0 < b.attributeDepth) = true
  · simp [text, hsilent]
  · by_cases htop : ∃ d rest, b.frames = .simpleType d :: rest
    · obtain ⟨d, rest, hframes⟩ := htop
      simp [text, hsilent, hframes, setTopFrame, String.append_assoc]
    · -- The texts go to the node on top, if there is one.
      have hnode : ∀ m content, ({ b with model := m } : Builder).text content =
          ({ b with model := m } : Builder).modifyCurrent fun n =>
            { n with documentation := n.documentation ++ content } := by
        intro m content
        show (if _ then _ else _) = _
        rw [if_neg hsilent]
        split
        · rename_i d rest hframes
          exact absurd ⟨d, rest, hframes⟩ htop
        · rfl
      rw [show b.text first = _ from hnode b.model first, modifyCurrent_eq, hnode, ← modifyCurrent_eq,
        modifyCurrent_modifyCurrent, show b.text (first ++ second) = _ from hnode b.model (first ++ second)]
      simp only [String.append_assoc]

/-- A text without characters makes no difference. -/
theorem text_empty (b : Builder) : b.text "" = b := by
  have hmodify : ∀ m : Model, ∀ id, m.modifyNode id (fun n => { n with documentation := n.documentation ++ "" }) = m := by
    intro m id
    have hnodes : m.nodes.modify id.index (fun n => { n with documentation := n.documentation ++ "" }) = m.nodes := by
      apply Array.ext <;> simp [Array.getElem_modify]
    rw [Model.modifyNode, hnodes]
  unfold text
  split
  · rfl
  · split
    · rename_i d rest hframes
      have htop : Frame.simpleType d :: b.frames.tail = b.frames := by
        rw [hframes]
        rfl
      rw [String.append_empty]
      show ({ b with frames := Frame.simpleType d :: b.frames.tail } : Builder) = b
      rw [htop]
    · unfold modifyCurrent
      split
      · rw [modifyNode, modifyModel, hmodify]
      · rfl

/-- It makes no difference where texts are cut. -/
theorem feedAll_texts (b : Builder) {contents : List String} (hne : contents ≠ []) :
    b.feedAll (contents.map .text) = .ok (b.text (String.join contents)) := by
  induction contents generalizing b with
  | nil => exact absurd rfl hne
  | cons content contents ih =>
      show (b.text content).feedAll (contents.map .text) = _
      by_cases hnil : contents = []
      · subst hnil
        simp [feedAll, pure, Except.pure]
      · rw [ih _ hnil, text_text, String.join_cons]

end Builder

/-! ### Documents -/

namespace Model

variable {prefixOverride : Option String} {events events' : List Event} {m : Model}

/-- One change of what says nothing. -/
theorem ofEvents_of_rewrite (h : ofEvents prefixOverride events = .ok m)
    (hrewrite : Rewrites m.builtins events events') : ofEvents prefixOverride events' = .ok m := by
  obtain ⟨b, hfeed, hfinish⟩ := exists_of_ofEvents h
  obtain ⟨hmodel, -, -⟩ := Builder.eq_of_finish hfinish
  suffices hsame : (Builder.start prefixOverride).feedAll events' = .ok b by
    rw [ofEvents, hsame]
    exact hfinish
  cases hrewrite with
  | @unwrap before inner after name attributes hroot hwrapper hinner =>
      obtain ⟨b₁, hbefore, hfeed⟩ := Builder.exists_of_feedAll_append hfeed
      have hsplit : b₁.feedAll ((.startTag name attributes :: (inner ++ [.endTag name])) ++ after) = .ok b := by
        simpa using hfeed
      obtain ⟨b₂, hwrapped, hafter⟩ := Builder.exists_of_feedAll_append hsplit
      obtain ⟨_, _, hmem⟩ := hroot
      have hseen : b₁.seenRoot = true := Builder.seenRoot_of_mem hbefore hmem
      -- The prefix of the schema namespace is the same from the root on.
      have hbuiltins : b₁.builtins = m.builtins := by
        rw [← hmodel]
        exact (Builder.builtins_of_feedAll hfeed hseen).1.symm
      have hunwrapped : b₁.feedAll inner = .ok b₂ :=
        Builder.feedAll_unwrap hseen (hbuiltins ▸ hwrapper) hinner hwrapped
      rw [Builder.feedAll_append_of_ok hbefore, Builder.feedAll_append_of_ok hunwrapped]
      exact hafter
  | @recut before after old new hold hnew hjoin =>
      obtain ⟨b₁, hbefore, hfeed⟩ := Builder.exists_of_feedAll_append hfeed
      obtain ⟨b₂, htexts, hafter⟩ := Builder.exists_of_feedAll_append hfeed
      have htexts' : b₁.feedAll (new.map .text) = .ok b₂ := by
        rw [Builder.feedAll_texts b₁ hnew, ← hjoin, ← Builder.feedAll_texts b₁ hold]
        exact htexts
      rw [Builder.feedAll_append_of_ok hbefore, Builder.feedAll_append_of_ok htexts']
      exact hafter

/-- Any number of wrappers can be left out, and texts cut anywhere: the same model is built. -/
theorem ofEvents_of_rewrites (h : ofEvents prefixOverride events = .ok m)
    (hrewrites : Relation.ReflTransGen (Rewrites m.builtins) events events') :
    ofEvents prefixOverride events' = .ok m := by
  induction hrewrites with
  | refl => exact h
  | tail _ hrewrite ih => exact ofEvents_of_rewrite ih hrewrite

/-- An element with a note, given in parts. -/
def notedItem (note : List String) : List Event :=
  enclosed "element" [("name", "item")] (enclosed "annotation" [] (enclosed "documentation" [] (note.map .text)))

/-- A schema with one type. -/
def orderAround (content : List Event) : List Event :=
  enclosed "schema" [] (enclosed "complexType" [("name", "Order")] content)

/-- The element in a wrapper, with its note cut in two. -/
def wrappedOrder : List Event := orderAround (enclosed "sequence" [] (notedItem ["one ", "part"]))

theorem ofEvents_wrappedOrder : ∃ m, ofEvents none wrappedOrder = .ok m ∧
    Relation.ReflTransGen (Rewrites m.builtins) wrappedOrder (orderAround (notedItem ["one part"])) ∧
      ofEvents none (orderAround (notedItem ["one part"])) = .ok m := by
  obtain ⟨m, hread, hbuiltins⟩ : ∃ m, ofEvents none wrappedOrder = .ok m ∧ m.builtins = ⟨""⟩ := ⟨_, rfl, rfl⟩
  let before : List Event := [.startTag "schema" ⟨[]⟩, .startTag "complexType" ⟨[("name", "Order")]⟩]
  let after : List Event := [.endTag "complexType", .endTag "schema"]
  have hunwrap : Rewrites m.builtins wrappedOrder (orderAround (notedItem ["one ", "part"])) := by
    rw [hbuiltins]
    have hinner : Balanced (enclosed "element" [("name", "item")]
        (enclosed "annotation" [] (enclosed "documentation" [] []))) := .tree (.tree (.tree .nil .nil) .nil) .nil
    exact @Rewrites.unwrap ⟨""⟩ before (notedItem ["one ", "part"]) after "sequence" ⟨[]⟩ ⟨_, _, .head _⟩ rfl hinner
  have hrecut : Rewrites m.builtins (orderAround (notedItem ["one ", "part"])) (orderAround (notedItem ["one part"])) :=
    let opened : List Event :=
      [.startTag "element" ⟨[("name", "item")]⟩, .startTag "annotation" ⟨[]⟩, .startTag "documentation" ⟨[]⟩]
    let closed : List Event := [.endTag "documentation", .endTag "annotation", .endTag "element"]
    @Rewrites.recut m.builtins (before ++ opened) (closed ++ after) ["one ", "part"] ["one part"] (by simp) (by simp) rfl
  have hrewrites := (Relation.ReflTransGen.single hunwrap).tail hrecut
  exact ⟨m, hread, hrewrites, ofEvents_of_rewrites hread hrewrites⟩

end Model

end SchemaBinding
