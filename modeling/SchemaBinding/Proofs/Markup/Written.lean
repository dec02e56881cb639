import SchemaBinding.Proofs.Builder.Wrappers
import SchemaBinding.Proofs.Markup.Tags
import SchemaBinding.Proofs.Text.Occurrence
import SchemaBinding.Schema.Source

/-!
# `SchemaBinding.Proofs.Markup.Written`: a document that is written is read as what it says

A writer has choices. A value stands in quotes of either kind, a text is escaped or stands as character data, a tag without
content is one tag or two, and comments may stand anywhere. `Piece` has one constructor for each of these, and `Writes` says
that a list of pieces is one way to write a list of events. Every list of events has such a way (`writes_map_ofEvent`).

A reader takes in one piece at a time (`exists_readMarkup_eq`), except for escaped texts: two of them that follow each other
are one text to the reader, an empty one is none, and an escaped text beside character data is two. So the events that are
read are not the events that were written. They are the same to a builder, which puts the texts of a node together.
`exists_eventsFrom_eq` is that statement for all pieces, by induction over them with the escaped text that is still open, and
`ofSource_written` is the statement for a document. Its two sides are results of the builder, errors included: where one
side stops in the middle, the other stops with the same error.
-/

set_option autoImplicit false

namespace SchemaBinding.Markup

/-! ### Pieces of a document -/

/-- A piece of a document, written in one of the ways that there are. -/
inductive Piece where
  | startTag (name : String) (attributes : List WrittenAttribute)
  /-- A tag without content, in place of a start tag and its end tag. -/
  | emptyTag (name : String) (attributes : List WrittenAttribute)
  | endTag (name : String)
  /-- A text with its special characters escaped. -/
  | text (content : String)
  /-- A text that stands as it is. -/
  | cdata (content : String)
  /-- A comment, which says nothing. -/
  | comment (content : String)
  deriving Repr, DecidableEq, Inhabited

namespace Piece

/-- The piece as it is written. -/
def chars : Piece → List Char
  | startTag name attributes => '<' :: (tagContent name attributes ++ ['>'])
  | emptyTag name attributes => '<' :: (tagContent name attributes ++ ['/', '>'])
  | endTag name => '<' :: '/' :: (name.toList ++ ['>'])
  | text content => escape content.toList
  | cdata content => '<' :: (cdataMark ++ content.toList ++ [']', ']', '>'])
  | comment content => '<' :: (commentMark ++ content.toList ++ ['-', '-', '>'])

/-- What the piece says. -/
def events : Piece → List Event
  | startTag name attributes => [.startTag name ⟨attributes.map WrittenAttribute.pair⟩]
  | emptyTag name attributes => [.startTag name ⟨attributes.map WrittenAttribute.pair⟩, .endTag name]
  | endTag name => [.endTag name]
  | text content | cdata content => [.text content]
  | comment _ => []

/-- What stands as it is does not have its own end in it. -/
def IsSafe : Piece → Prop
  | cdata content => ¬ [']', ']', '>'] <:+: content.toList
  | comment content => ¬ ['-', '-', '>'] <:+: content.toList
  | _ => True

end Piece

/-- The pieces say the events. -/
structure Writes (pieces : List Piece) (events : List Event) : Prop where
  safe : ∀ piece ∈ pieces, piece.IsSafe
  events_eq : pieces.flatMap Piece.events = events

/-- The document that consists of the pieces. -/
def document (pieces : List Piece) : String := String.ofList (pieces.flatMap Piece.chars)

/-! ### Character data and comments -/

theorem cutWhere_eq {closes : List Char → Bool} {before cs : List Char} (hclose : closes (cs.reverse ++ before) = true)
    (hopen : ∀ front back, cs = front ++ '>' :: back → closes (front.reverse ++ before) = false) (rest : List Char) :
    cutWhere closes before (cs ++ '>' :: rest) = some ⟨before.reverse ++ cs, rest⟩ := by
  induction cs generalizing before with
  | nil =>
      have hbefore : closes before = true := hclose
      simp [cutWhere, hbefore]
  | cons c cs ih =>
      have hc : (c = '>' && closes before) = false := by
        by_cases hbracket : c = '>'
        · have hbefore : closes before = false := hopen [] cs (by rw [hbracket]; rfl)
          simp [hbefore]
        · simp [hbracket]
      rw [List.cons_append, cutWhere, hc, if_neg Bool.false_ne_true, ih]
      · simp
      · simpa using hclose
      · intro front back heq
        have := hopen (c :: front) back (by rw [heq]; rfl)
        simpa using this

theorem readCdata_written {content : String} (h : ¬ [']', ']', '>'] <:+: content.toList) (openNames : List String)
    (rest : List Char) :
    readCdata openNames (cdataMark ++ content.toList ++ [']', ']'] ++ '>' :: rest) =
      .ok ⟨textEvents content.toList, openNames, rest⟩ := by
  rw [readCdata, cutWhere_eq (by simp)]
  · have hprefix : cdataMark.isPrefixOf (cdataMark ++ (content.toList ++ [']', ']'])) = true := by simp
    simp only [List.reverse_nil, List.nil_append, List.append_assoc, hprefix, if_true, List.drop_left]
    have htake : (content.toList ++ [']', ']']).take ((content.toList ++ [']', ']']).length - 2) = content.toList := by
      simp
    rw [htake]
    rfl
  · intro front back heq
    split
    · rename_i before hfront
      -- The end would stand in the content, since it begins and ends with other characters than what is around that.
      rw [List.append_nil, List.reverse_eq_iff] at hfront
      have hend : [']', ']', '>'] <:+: cdataMark ++ (content.toList ++ [']', ']']) :=
        ⟨before.reverse, back, by rw [← List.append_assoc cdataMark, heq, hfront]; simp⟩
      have hmark : cdataMark = ['!', '[', 'C', 'D', 'A', 'T', 'A', '['] := by decide
      have hfirst : ∀ d ∈ cdataMark, [']', ']', '>'].head? ≠ some d := by simp [hmark]
      have hlast : ∀ d ∈ [']', ']'], [']', ']', '>'].getLast? ≠ some d := by simp
      exact absurd ((Text.infix_append_of_getLast?_ne hlast).mp ((Text.infix_append_of_head?_ne hfirst).mp hend)) h
    · rfl

theorem readComment_written {content : String} (h : ¬ ['-', '-', '>'] <:+: content.toList) (openNames : List String)
    (rest : List Char) :
    readComment openNames (commentMark ++ content.toList ++ ['-', '-'] ++ '>' :: rest) = .ok ⟨[], openNames, rest⟩ := by
  rw [readComment, cutWhere_eq]
  · have hprefix : commentMark.isPrefixOf (commentMark ++ (content.toList ++ ['-', '-'])) = true := by simp
    simp only [List.reverse_nil, List.nil_append, List.append_assoc, hprefix, if_true]
    rfl
  · simp [commentMark]
  · intro front back heq
    rw [Bool.eq_false_iff]
    intro hcloses
    rw [List.append_nil, Bool.and_eq_true, List.isPrefixOf_iff_prefix, decide_eq_true_eq] at hcloses
    obtain ⟨⟨before, hfront⟩, hlength⟩ := hcloses
    -- The bracket stands far enough behind the beginning for both of its signs to be in the content.
    have hbefore : commentMark.length ≤ before.reverse.length := by
      have hsame := congrArg List.length hfront
      simp [commentMark] at hsame hlength ⊢
      omega
    have hfront : front = before.reverse ++ ['-', '-'] := by
      rw [List.reverse_eq_iff.mp hfront.symm]
      simp
    have hdrop := congrArg (List.drop commentMark.length) heq
    rw [List.append_assoc, List.drop_left, hfront, List.append_assoc, List.drop_append_of_le_length hbefore] at hdrop
    have hend : ['-', '-', '>'] <:+: content.toList ++ ['-', '-'] :=
      ⟨before.reverse.drop commentMark.length, back, by rw [hdrop]; simp⟩
    have hlast : ∀ d ∈ ['-', '-'], ['-', '-', '>'].getLast? ≠ some d := by simp
    exact h ((Text.infix_append_of_getLast?_ne hlast).mp hend)

/-! ### Matching tags -/

/-- The names of the tags that are open after some events, innermost first, if the end tags match those that are open. -/
def openAfter (names : List String) : List Event → Option (List String)
  | [] => some names
  | .text _ :: rest => openAfter names rest
  | .startTag name _ :: rest => openAfter (name :: names) rest
  | .endTag name :: rest =>
    match names with
    | [] => none
    | innermost :: outer => if name = innermost then openAfter outer rest else none

theorem openAfter_append (names : List String) (first second : List Event) :
    openAfter names (first ++ second) = (openAfter names first).bind fun after => openAfter after second := by
  fun_induction openAfter names first with
  | case1 => rfl
  | case2 names content rest ih => simpa [openAfter] using ih
  | case3 names name attributes rest ih => simpa [openAfter] using ih
  | case4 name rest => simp [openAfter]
  | case5 rest innermost outer ih => simpa [openAfter] using ih
  | case6 name rest innermost outer hne => simp [openAfter, hne]

theorem openAfter_filter (names : List String) (events : List Event) :
    openAfter names (events.filter Event.isTag) = openAfter names events := by
  fun_induction openAfter names events with
  | case1 => rfl
  | case2 names content rest ih => simpa [Event.isTag] using ih
  | case3 names name attributes rest ih =>
      rw [List.filter_cons_of_pos rfl]
      exact ih
  | case4 name rest => rw [List.filter_cons_of_pos rfl, openAfter]
  | case5 rest innermost outer ih =>
      rw [List.filter_cons_of_pos rfl, openAfter, if_pos rfl]
      exact ih
  | case6 name rest innermost outer hne => rw [List.filter_cons_of_pos rfl, openAfter, if_neg hne]

theorem openAfter_of_balanced {tags : List Event} (h : Balanced tags) (names : List String) :
    openAfter names tags = some names := by
  induction h generalizing names with
  | nil => rfl
  | tree _ _ ihinner ihrest => simp [openAfter, openAfter_append, ihinner, ihrest]

/-! ### Reading what is written -/

section reading

variable (openNames : List String)

theorem ne_bracket_of_mem_escape {cs : List Char} {c : Char} (h : c ∈ escape cs) : c ≠ '<' := by
  have hspecial := isSpecial_of_mem_escape h
  rintro rfl
  cases hspecial

theorem eventsFrom_text (cs : List Char) : eventsFrom openNames (escape cs) = (textEvents cs, none) := by
  have hnone : ∀ c ∈ escape cs, decide (c ≠ '<') = true := fun c hc => decide_eq_true (ne_bracket_of_mem_escape hc)
  have htake : (escape cs).takeWhile (· ≠ '<') = escape cs := List.takeWhile_eq_self_iff.mpr hnone
  have hdrop : (escape cs).dropWhile (· ≠ '<') = [] := List.dropWhile_eq_nil_iff.mpr hnone
  rw [eventsFrom, htake, unescape_escape]
  dsimp only
  split
  · rfl
  · rename_i hcons
    rw [hdrop] at hcons
    cases hcons

theorem eventsFrom_markup (cs : List Char) {rest : List Char} {s : Step} (h : readMarkup openNames rest = .ok s) :
    eventsFrom openNames (escape cs ++ '<' :: rest) =
      (textEvents cs ++ s.events ++ (eventsFrom s.openNames s.rest).1, (eventsFrom s.openNames s.rest).2) := by
  have hnone : ∀ c ∈ escape cs, decide (c ≠ '<') = true := fun c hc => decide_eq_true (ne_bracket_of_mem_escape hc)
  have htake : (escape cs ++ '<' :: rest).takeWhile (· ≠ '<') = escape cs := by
    rw [List.takeWhile_append_of_pos hnone]
    simp
  have hdrop : (escape cs ++ '<' :: rest).dropWhile (· ≠ '<') = '<' :: rest := by
    rw [List.dropWhile_append_of_pos hnone]
    simp
  rw [eventsFrom, htake, unescape_escape]
  dsimp only
  split
  · rename_i hnil
    rw [hdrop] at hnil
    cases hnil
  · rename_i hcons
    rw [hdrop] at hcons
    cases hcons
    split
    · rename_i herror
      rw [h] at herror
      cases herror
    · rename_i hok
      rw [h] at hok
      cases hok
      rfl

end reading

/-- The names in an event are names, and an attribute does not come twice in a tag. -/
def IsNamed : Event → Prop
  | .startTag name attributes =>
    IsName name ∧ (∀ pair ∈ attributes.pairs, IsName pair.1) ∧ (attributes.pairs.map Prod.fst).Nodup
  | .text _ => True
  | .endTag name => IsName name

theorem isTag_of_isNamed {name : String} {attributes : List WrittenAttribute}
    (h : IsNamed (.startTag name ⟨attributes.map WrittenAttribute.pair⟩)) : IsTag name attributes := by
  obtain ⟨hname, hkeys, hnodup⟩ := h
  refine ⟨hname, fun a ha => hkeys a.pair (List.mem_map_of_mem ha), ?_⟩
  rwa [List.map_map] at hnodup

/-- Behind a bracket, a name begins a start tag. -/
theorem readMarkup_of_isName {name : String} (h : IsName name) (openNames : List String) (rest : List Char) :
    readMarkup openNames (name.toList ++ rest) = readStartTag openNames (name.toList ++ rest) := by
  obtain ⟨c, others, hname⟩ := List.exists_cons_of_ne_nil h.1
  have hc := h.2 c (hname ▸ List.mem_cons_self)
  rw [hname, List.cons_append]
  unfold readMarkup
  split
  · rename_i hnil
    cases hnil
  · rename_i hcons
    exact absurd (List.cons.inj hcons).1 (ne_of_isNameChar hc (by decide))
  · rename_i hcons
    exact absurd (List.cons.inj hcons).1 (ne_of_isNameChar hc (by decide))
  · rename_i hcons
    exact absurd (List.cons.inj hcons).1 (ne_of_isNameChar hc (by decide))
  · rfl

/-- A text that is not there makes no difference to a builder. -/
theorem feedAll_textEvents (b : Builder) (cs : List Char) (events : List Event) :
    b.feedAll (textEvents cs ++ events) = (b.text (String.ofList cs)).feedAll events := by
  cases cs with
  | nil => rw [String.ofList_nil, Builder.text_empty]; rfl
  | cons c rest => rfl

/-- A reader takes in what a piece says, unless it is an escaped text, which may go on with the next piece. -/
theorem exists_readMarkup_eq {piece : Piece} (hsafe : piece.IsSafe) (hnamed : ∀ e ∈ piece.events, IsNamed e)
    {openNames after : List String} (hopen : openAfter openNames piece.events = some after) (rest : List Char) :
    (∃ content, piece = .text content) ∨
      ∃ inner events, piece.chars ++ rest = '<' :: inner ∧ readMarkup openNames inner = .ok ⟨events, after, rest⟩ ∧
        ∀ b : Builder, b.feedAll events = b.feedAll piece.events := by
  cases piece with
  | text content => exact Or.inl ⟨content, rfl⟩
  | startTag name attributes =>
      have htag := isTag_of_isNamed (hnamed _ List.mem_cons_self)
      cases hopen
      refine Or.inr ⟨tagContent name attributes ++ '>' :: rest, _, by simp [Piece.chars], ?_, fun _ => rfl⟩
      rw [tagContent, List.append_assoc, readMarkup_of_isName htag.name, ← List.append_assoc]
      exact readStartTag_written htag openNames rest
  | emptyTag name attributes =>
      have htag := isTag_of_isNamed (hnamed _ List.mem_cons_self)
      have hafter : openNames = after := by simpa [Piece.events, openAfter] using hopen
      refine Or.inr ⟨tagContent name attributes ++ '/' :: '>' :: rest, _, by simp [Piece.chars], ?_, fun _ => rfl⟩
      rw [tagContent, List.append_assoc, readMarkup_of_isName htag.name, ← List.append_assoc, ← hafter]
      exact readStartTag_written_empty htag openNames rest
  | endTag name =>
      have hname : IsName name := hnamed _ List.mem_cons_self
      cases openNames with
      | nil => cases hopen
      | cons innermost outer =>
          obtain ⟨rfl, rfl⟩ : name = innermost ∧ outer = after := by simpa [Piece.events, openAfter] using hopen
          refine Or.inr ⟨'/' :: (name.toList ++ '>' :: rest), _, by simp [Piece.chars], ?_, fun _ => rfl⟩
          exact readEndTag_written hname outer rest
  | cdata content =>
      have hafter : openNames = after := by simpa [Piece.events, openAfter] using hopen
      refine Or.inr ⟨cdataMark ++ content.toList ++ [']', ']'] ++ '>' :: rest, textEvents content.toList,
        by simp [Piece.chars], ?_, ?_⟩
      · rw [← hafter, ← readCdata_written hsafe]
        rfl
      · intro b
        have htext := feedAll_textEvents b content.toList []
        rw [List.append_nil, String.ofList_toList] at htext
        exact htext
  | comment content =>
      have hafter : openNames = after := by simpa [Piece.events, openAfter] using hopen
      refine Or.inr ⟨commentMark ++ content.toList ++ ['-', '-'] ++ '>' :: rest, [], by simp [Piece.chars], ?_,
        fun _ => rfl⟩
      rw [← hafter, ← readComment_written hsafe]
      rfl

/-- What is read of the pieces is to a builder what they say. Some text may be open before them. -/
theorem exists_eventsFrom_eq {pieces : List Piece} (hsafe : ∀ piece ∈ pieces, piece.IsSafe)
    (hnamed : ∀ e ∈ pieces.flatMap Piece.events, IsNamed e) {openNames after : List String}
    (hopen : openAfter openNames (pieces.flatMap Piece.events) = some after) (pending : List Char) :
    ∃ events, eventsFrom openNames (escape pending ++ pieces.flatMap Piece.chars) = (events, none) ∧
      ∀ b : Builder, b.feedAll events = (b.text (String.ofList pending)).feedAll (pieces.flatMap Piece.events) := by
  induction pieces generalizing openNames pending with
  | nil =>
      refine ⟨textEvents pending, ?_, fun b => ?_⟩
      · rw [List.flatMap_nil, List.append_nil, eventsFrom_text]
      · rw [← feedAll_textEvents, List.flatMap_nil, List.append_nil]
  | cons piece rest ih =>
      have hpiece := hsafe piece List.mem_cons_self
      have hrest : ∀ piece ∈ rest, piece.IsSafe := fun p hp => hsafe p (List.mem_cons_of_mem _ hp)
      simp only [List.flatMap_cons] at hnamed hopen ⊢
      have hnamedRest : ∀ e ∈ rest.flatMap Piece.events, IsNamed e := fun e he => hnamed e (List.mem_append_right _ he)
      rw [openAfter_append] at hopen
      obtain ⟨between, hbetween, hafter⟩ := Option.bind_eq_some_iff.mp hopen
      rcases exists_readMarkup_eq hpiece (fun e he => hnamed e (List.mem_append_left _ he)) hbetween
        (rest.flatMap Piece.chars) with ⟨content, rfl⟩ | ⟨inner, read, hchars, hread, hsame⟩
      · -- An escaped text goes on with the one that is open.
        cases hbetween
        obtain ⟨events, hevents, hfeed⟩ := ih hrest hnamedRest hafter (pending ++ content.toList)
        refine ⟨events, ?_, fun b => ?_⟩
        · rw [escape_append, List.append_assoc] at hevents
          exact hevents
        · rw [hfeed, String.ofList_append, String.ofList_toList, ← Builder.text_text]
          rfl
      · obtain ⟨events, hevents, hfeed⟩ := ih hrest hnamedRest hafter []
        have hevents : eventsFrom between (rest.flatMap Piece.chars) = (events, none) := hevents
        refine ⟨textEvents pending ++ read ++ events, ?_, fun b => ?_⟩
        · rw [hchars, eventsFrom_markup openNames pending hread, hevents]
        · have hlater : ∀ b : Builder, b.feedAll events = b.feedAll (rest.flatMap Piece.events) := by
            intro b
            rw [hfeed, String.ofList_nil, Builder.text_empty]
          rw [List.append_assoc, feedAll_textEvents, Builder.feedAll_append, Builder.feedAll_append, hsame]
          simp only [hlater]

/-! ### Documents -/

/-- The tags form one tree, and all texts are inside of it. -/
def IsTree (events : List Event) : Prop :=
  ∃ name attributes inner, events = .startTag name attributes :: (inner ++ [.endTag name]) ∧
    Balanced (inner.filter Event.isTag)

theorem openAfter_of_isTree {events : List Event} (h : IsTree events) : openAfter [] events = some [] := by
  obtain ⟨name, attributes, inner, rfl, hbalanced⟩ := h
  have hinner : openAfter [name] inner = some [name] := by rw [← openAfter_filter, openAfter_of_balanced hbalanced]
  simp [openAfter, openAfter_append, hinner]

/-- The pieces that say an event, each written in the plainest way. -/
def Piece.ofEvent : Event → Piece
  | .startTag name attributes => startTag name (attributes.pairs.map fun pair => { key := pair.1, value := pair.2 })
  | .text content => text content
  | .endTag name => endTag name

/-- All events can be written. -/
theorem writes_map_ofEvent (events : List Event) : Writes (events.map Piece.ofEvent) events where
  safe piece hpiece := by
    obtain ⟨e, -, rfl⟩ := List.mem_map.mp hpiece
    cases e <;> trivial
  events_eq := by
    have hevent : ∀ e, (Piece.ofEvent e).events = [e] := by
      intro e
      cases e with
      | startTag name attributes => simp [Piece.ofEvent, Piece.events, WrittenAttribute.pair, Function.comp_def]
      | text | endTag => rfl
    rw [List.flatMap_map]
    simp [hevent]

/-- A document begins with a bracket. -/
theorem head?_document {pieces : List Piece} {events : List Event} (h : Writes pieces events) (htree : IsTree events) :
    (pieces.flatMap Piece.chars).head? = some '<' := by
  obtain ⟨name, attributes, inner, rfl, -⟩ := htree
  have hevents := h.events_eq
  cases pieces with
  | nil => cases hevents
  | cons piece rest =>
      cases piece with
      | text | cdata | endTag => cases hevents
      | startTag | emptyTag | comment => rfl

end SchemaBinding.Markup

namespace SchemaBinding.Model

open Markup

/-- **A document gives the model of the events that it is written from.** Any events that form a tree can be written, and
however they are written, reading the text and taking the events gives the same model or the same error. -/
theorem ofSource_written (prefixOverride : Option String) {events : List Event} (htree : IsTree events)
    (hnamed : ∀ e ∈ events, IsNamed e) :
    (∃ pieces, Writes pieces events) ∧ ∀ pieces, Writes pieces events →
      ofSource prefixOverride (document pieces) = ofEvents prefixOverride events := by
  refine ⟨⟨_, writes_map_ofEvent events⟩, fun pieces hwrites => ?_⟩
  have hhead := head?_document hwrites htree
  obtain ⟨hsafe, rfl⟩ := hwrites
  obtain ⟨read, hread, hfeed⟩ := exists_eventsFrom_eq hsafe hnamed (openAfter_of_isTree htree) []
  have hevents : Markup.events (document pieces) = (read, none) := by
    rw [Markup.events, document, String.toList_ofList]
    simp only [hhead]
    exact hread
  rw [ofSource, hevents, ofEvents]
  simp only [hfeed, String.ofList_nil, Builder.text_empty]

/-- A schema with special characters in a value and in a text. -/
def markedEvents : List Event :=
  [.startTag "xs:schema" ⟨[]⟩, .startTag "xs:element" ⟨[("name", "a"), ("default", "\"<&>'")]⟩, .endTag "xs:element",
    .text "a]]&b", .endTag "xs:schema"]

/-- One way to write it. -/
def markedPieces : List Piece :=
  [.comment " -- ", .startTag "xs:schema" [],
    .emptyTag "xs:element" [{ key := "name", value := "a" }, { key := "default", value := "\"<&>'", quote := .single }],
    .cdata "a]]&b", .endTag "xs:schema"]

theorem ofSource_written_markedPieces :
    IsTree markedEvents ∧ (∀ e ∈ markedEvents, IsNamed e) ∧ Writes markedPieces markedEvents ∧
      document markedPieces = "<!-- -- --><xs:schema><xs:element name=\"a\" default='&quot;&lt;&amp;&gt;&apos;'/>" ++
        "<![CDATA[a]]&b]]></xs:schema>" ∧
      ofSource none (document markedPieces) = ofEvents none markedEvents := by
  have htree : IsTree markedEvents :=
    ⟨"xs:schema", ⟨[]⟩, markedEvents.tail.dropLast, rfl, (.tree .nil .nil : Balanced [_, _])⟩
  have hnamed : ∀ e ∈ markedEvents, IsNamed e := by
    have hkeys : ∀ pair ∈ [("name", "a"), ("default", "\"<&>'")], IsName pair.1 := by decide
    simp only [markedEvents, List.forall_mem_cons, List.not_mem_nil, false_implies, implies_true, and_true]
    exact ⟨⟨by decide, by simp, by simp⟩, ⟨by decide, hkeys, by decide⟩, (by decide : IsName "xs:element"), trivial,
      (by decide : IsName "xs:schema")⟩
  have hwrites : Writes markedPieces markedEvents := by
    refine ⟨?_, rfl⟩
    simp only [markedPieces, List.forall_mem_cons, List.not_mem_nil, false_implies, implies_true, and_true]
    exact ⟨(by decide : ¬ ['-', '-', '>'] <:+: " -- ".toList), trivial, trivial,
      (by decide : ¬ [']', ']', '>'] <:+: "a]]&b".toList), trivial⟩
  exact ⟨htree, hnamed, hwrites, by decide +kernel, (ofSource_written none htree hnamed).2 markedPieces hwrites⟩

end SchemaBinding.Model
