import SchemaBinding.Markup.Attribute
import SchemaBinding.Schema.Event

/-!
# `SchemaBinding.Markup.Document`: the events of a document

A document is read from its text up to the first error. What a tag is shows in the character after its
opening bracket. Comments, instructions and document type declarations are skipped; an element without
content counts as a start tag and an end tag. End tags have to match start tags, but tags that are still
open at the end are no error here.
-/

set_option autoImplicit false

namespace SchemaBinding.Markup

/-- A piece of markup without its brackets, and the text after it. -/
structure Cut where
  content : List Char
  rest : List Char
  deriving Repr, DecidableEq, Inhabited

/-- The text up to the first closing bracket outside of quotes. -/
def cutTag (quote : Option Char) : List Char → Option Cut
  | [] => none
  | c :: rest =>
    let onward (quote : Option Char) : Option Cut :=
      (cutTag quote rest).map fun cut => { cut with content := c :: cut.content }
    match quote with
    | some q => onward (if c = q then none else some q)
    | none =>
      if c = '>' then some ⟨[], rest⟩
      else onward (if c = '"' || c = '\'' then some c else none)

/-- The text up to the first closing bracket for which `closes` holds of the text before it, last character
first. -/
def cutWhere (closes : List Char → Bool) (before : List Char) : List Char → Option Cut
  | [] => none
  | c :: rest =>
    if c = '>' && closes before then some ⟨before.reverse, rest⟩
    else cutWhere closes (c :: before) rest

/-- The text up to the closing bracket that no opening bracket pairs with. -/
def cutBalanced (depth : Nat) : List Char → Option Cut
  | [] => none
  | c :: rest =>
    let onward (depth : Nat) : Option Cut :=
      (cutBalanced depth rest).map fun cut => { cut with content := c :: cut.content }
    if c = '<' then onward (depth + 1)
    else if c = '>' then
      match depth with
      | 0 => some ⟨[], rest⟩
      | outer + 1 => onward outer
    else onward depth

theorem length_rest_of_cutTag {quote : Option Char} {cs : List Char} {cut : Cut}
    (h : cutTag quote cs = some cut) : cut.rest.length < cs.length := by
  induction cs generalizing quote cut with
  | nil => simp [cutTag] at h
  | cons c rest ih =>
      cases quote with
      | some q =>
          simp only [cutTag, Option.map_eq_some_iff] at h
          obtain ⟨inner, hinner, rfl⟩ := h
          have hlt : inner.rest.length < rest.length := ih hinner
          exact Nat.lt_succ_of_lt hlt
      | none =>
          simp only [cutTag] at h
          split at h
          · cases h; simp
          · simp only [Option.map_eq_some_iff] at h
            obtain ⟨inner, hinner, rfl⟩ := h
            have hlt : inner.rest.length < rest.length := ih hinner
            exact Nat.lt_succ_of_lt hlt

theorem length_rest_of_cutWhere {closes : List Char → Bool} {before cs : List Char} {cut : Cut}
    (h : cutWhere closes before cs = some cut) : cut.rest.length < cs.length := by
  induction cs generalizing before with
  | nil => simp [cutWhere] at h
  | cons c rest ih =>
      simp only [cutWhere] at h
      split at h
      · cases h; simp
      · exact Nat.lt_succ_of_lt (ih h)

theorem length_rest_of_cutBalanced {depth : Nat} {cs : List Char} {cut : Cut}
    (h : cutBalanced depth cs = some cut) : cut.rest.length < cs.length := by
  induction cs generalizing depth cut with
  | nil => simp [cutBalanced] at h
  | cons c rest ih =>
      have step : ∀ d, (cutBalanced d rest).map
          (fun cut => ({ cut with content := c :: cut.content } : Cut)) = some cut →
          cut.rest.length < rest.length + 1 := by
        intro d hd
        simp only [Option.map_eq_some_iff] at hd
        obtain ⟨inner, hinner, rfl⟩ := hd
        have hlt : inner.rest.length < rest.length := ih hinner
        exact Nat.lt_succ_of_lt hlt
      simp only [cutBalanced] at h
      split at h
      · exact step _ h
      · split at h
        · split at h
          · cases h; simp
          · exact step _ h
        · exact step _ h

/-- What a piece of markup gives: its events, the names of the open tags after it, innermost first, and the
text that follows. -/
structure Step where
  events : List Event
  openNames : List String
  rest : List Char
  deriving Repr, DecidableEq, Inhabited

/-- A piece of markup that is skipped. -/
def skipped (openNames : List String) (rest : List Char) : Except Fault Step :=
  .ok ⟨[], openNames, rest⟩

def unclosed (what : Unclosed) : Except Fault Step := .error (.markup (.unclosed what))

def cdataMark : List Char := "![CDATA[".toList

def commentMark : List Char := "!--".toList

def doctypeMark : List Char := "!doctype".toList

/-- Character data, which is text without references. -/
def readCdata (openNames : List String) (cs : List Char) : Except Fault Step :=
  let closes : List Char → Bool
    | ']' :: ']' :: _ => true
    | _ => false
  match cutWhere closes [] cs with
  | none => unclosed .cdata
  | some cut =>
    if cdataMark.isPrefixOf cut.content then
      let inner := cut.content.drop cdataMark.length
      let content := inner.take (inner.length - 2)
      .ok ⟨if content.isEmpty then [] else [.text (String.ofList content)], openNames, cut.rest⟩
    else unclosed .cdata

/-- A comment. Its two marks do not overlap. -/
def readComment (openNames : List String) (cs : List Char) : Except Fault Step :=
  let closes (before : List Char) : Bool := ['-', '-'].isPrefixOf before && 5 ≤ before.length
  match cutWhere closes [] cs with
  | none => unclosed .comment
  | some cut =>
    if commentMark.isPrefixOf cut.content then skipped openNames cut.rest else unclosed .comment

/-- A document type declaration, which has to name something. -/
def readDoctype (openNames : List String) (cs : List Char) : Except Fault Step :=
  match cutBalanced 0 cs with
  | none => unclosed .doctype
  | some cut =>
    if doctypeMark.isPrefixOf (cut.content.map Char.toLower) then
      if (cut.content.drop doctypeMark.length).all isSpace then .error (.markup .missingDoctypeName)
      else skipped openNames cut.rest
    else unclosed .doctype

/-- An instruction, which is skipped whatever it says. -/
def readInstruction (openNames : List String) (cs : List Char) : Except Fault Step :=
  let closes : List Char → Bool
    | '?' :: _ => true
    | _ => false
  match cutWhere closes [] cs with
  | none => unclosed .instruction
  | some cut => if cut.content.length ≤ 1 then unclosed .instruction else skipped openNames cut.rest

/-- The name of an end tag: its content without the space behind, unless there is nothing else. -/
def endName (content : List Char) : List Char :=
  let name := (content.reverse.dropWhile isSpace).reverse
  if name.isEmpty then content else name

/-- An end tag, from behind its slash. -/
def readEndTag (openNames : List String) (cs : List Char) : Except Fault Step :=
  match cutTag none cs with
  | none => unclosed .tag
  | some cut =>
    let name := String.ofList (endName cut.content)
    match openNames with
    | [] => .error (.markup (.unmatchedEnd name))
    | innermost :: outer =>
      if name = innermost then .ok ⟨[.endTag name], outer, cut.rest⟩
      else .error (.markup (.mismatchedEnd innermost name))

/-- A start tag, or a start tag and an end tag in one when its last character is a slash. -/
def readStartTag (openNames : List String) (cs : List Char) : Except Fault Step :=
  match cutTag none cs with
  | none => unclosed .tag
  | some cut =>
    -- The slash belongs to the tag also when no space stands before it.
    let isEmpty := cut.content.getLast? = some '/'
    let content := if isEmpty then cut.content.dropLast else cut.content
    let name := content.takeWhile (!isSpace ·)
    let attributes := placed (width name) (content.drop name.length)
    (readAttributes (width content) [] attributes).map fun pairs =>
      let name := String.ofList name
      if isEmpty then ⟨[.startTag name ⟨pairs⟩, .endTag name], openNames, cut.rest⟩
      else ⟨[.startTag name ⟨pairs⟩], name :: openNames, cut.rest⟩

/-- One piece of markup, from behind its opening bracket. -/
def readMarkup (openNames : List String) (cs : List Char) : Except Fault Step :=
  match cs with
  | [] => unclosed .tag
  | '!' :: rest =>
    match rest.head? with
    | some '[' => readCdata openNames cs
    | some '-' => readComment openNames cs
    | some 'd' | some 'D' => readDoctype openNames cs
    | _ => .error (.markup .invalidMarkup)
  | '?' :: _ => readInstruction openNames cs
  | '/' :: rest => readEndTag openNames rest
  | _ => readStartTag openNames cs

theorem length_rest_of_readCdata {openNames : List String} {cs : List Char} {s : Step}
    (h : readCdata openNames cs = .ok s) : s.rest.length < cs.length := by
  simp only [readCdata, unclosed] at h
  split at h
  · cases h
  · rename_i cut hcut
    split at h
    · cases h; exact length_rest_of_cutWhere hcut
    · cases h

theorem length_rest_of_readComment {openNames : List String} {cs : List Char} {s : Step}
    (h : readComment openNames cs = .ok s) : s.rest.length < cs.length := by
  simp only [readComment, unclosed, skipped] at h
  split at h
  · cases h
  · rename_i cut hcut
    split at h
    · cases h; exact length_rest_of_cutWhere hcut
    · cases h

theorem length_rest_of_readDoctype {openNames : List String} {cs : List Char} {s : Step}
    (h : readDoctype openNames cs = .ok s) : s.rest.length < cs.length := by
  simp only [readDoctype, unclosed, skipped] at h
  split at h
  · cases h
  · rename_i cut hcut
    split at h
    · split at h
      · cases h
      · cases h; exact length_rest_of_cutBalanced hcut
    · cases h

theorem length_rest_of_readInstruction {openNames : List String} {cs : List Char} {s : Step}
    (h : readInstruction openNames cs = .ok s) : s.rest.length < cs.length := by
  simp only [readInstruction, unclosed, skipped] at h
  split at h
  · cases h
  · rename_i cut hcut
    split at h
    · cases h
    · cases h; exact length_rest_of_cutWhere hcut

theorem length_rest_of_readEndTag {openNames : List String} {cs : List Char} {s : Step}
    (h : readEndTag openNames cs = .ok s) : s.rest.length < cs.length := by
  simp only [readEndTag, unclosed] at h
  split at h
  · cases h
  · rename_i cut hcut
    split at h
    · cases h
    · split at h
      · cases h; exact length_rest_of_cutTag hcut
      · cases h

theorem length_rest_of_readStartTag {openNames : List String} {cs : List Char} {s : Step}
    (h : readStartTag openNames cs = .ok s) : s.rest.length < cs.length := by
  simp only [readStartTag, unclosed] at h
  split at h
  · cases h
  · rename_i cut hcut
    cases hpairs : readAttributes (width _) [] (placed (width _) _) with
    | error e => rw [hpairs] at h; cases h
    | ok pairs =>
        rw [hpairs] at h
        simp only [Except.map, Except.ok.injEq] at h
        rw [← h]
        split <;> exact length_rest_of_cutTag hcut

theorem length_rest_of_readMarkup {openNames : List String} {cs : List Char} {s : Step}
    (h : readMarkup openNames cs = .ok s) : s.rest.length < cs.length := by
  unfold readMarkup at h
  split at h
  · cases h
  · split at h
    · exact length_rest_of_readCdata h
    · exact length_rest_of_readComment h
    · exact length_rest_of_readDoctype h
    · exact length_rest_of_readDoctype h
    · cases h
  · exact length_rest_of_readInstruction h
  · exact Nat.lt_succ_of_lt (length_rest_of_readEndTag h)
  · exact length_rest_of_readStartTag h

/-- The text between two pieces of markup, as an event if there is any. -/
def textEvents (content : List Char) : List Event :=
  if content.isEmpty then [] else [.text (String.ofList content)]

/-- The events of a document up to its first error, and that error. -/
def eventsFrom (openNames : List String) (cs : List Char) : List Event × Option Fault :=
  match unescape (cs.takeWhile (· ≠ '<')) with
  | .error e => ([], some (.markup (.escape e)))
  | .ok content =>
    match hcs : cs.dropWhile (· ≠ '<') with
    | [] => (textEvents content, none)
    | _ :: rest =>
      match h : readMarkup openNames rest with
      | .error fault => (textEvents content, some fault)
      | .ok step =>
        -- A piece of markup takes at least one character, and so does the bracket in front of it.
        have : step.rest.length < cs.length := by
          have h₁ := length_rest_of_readMarkup h
          have h₂ := (List.dropWhile_suffix (l := cs) (· ≠ '<')).length_le
          rw [hcs] at h₂
          simp only [List.length_cons] at h₂
          omega
        let (events, fault) := eventsFrom step.openNames step.rest
        (textEvents content ++ step.events ++ events, fault)
  termination_by cs.length

/-- The mark that may stand at the start of a text to show its byte order. -/
def byteOrderMark : Char := '\uFEFF'

/-- The events of a document, from its text. -/
def events (source : String) : List Event × Option Fault :=
  let cs := source.toList
  eventsFrom [] (if cs.head? = some byteOrderMark then cs.tail else cs)

end SchemaBinding.Markup
