import SchemaBinding.Markup.Document
import SchemaBinding.Proofs.Markup.Escaped

/-!
# `SchemaBinding.Proofs.Markup.Tags`: tags as they are written

A tag is written as its name and its attributes, each with its value escaped and in quotes (`tagContent`). No closing
bracket stands inside of it but in quotes, so a reader finds its end (`cutTag_tagContent`). When the keys of the attributes
differ, the reader finds the attributes as they were written (`readAttributes_written`).
-/

set_option autoImplicit false

namespace SchemaBinding.Markup

/-! ### Names -/

/-- Whether `c` may stand in a name, which the recommendation for XML 1.0 says. -/
def isNameChar (c : Char) : Bool :=
  [(0x2D, 0x2E), (0x30, 0x3A), (0x41, 0x5A), (0x5F, 0x5F), (0x61, 0x7A), (0xB7, 0xB7), (0xC0, 0xD6), (0xD8, 0xF6),
    (0xF8, 0x37D), (0x37F, 0x1FFF), (0x200C, 0x200D), (0x203F, 0x2040), (0x2070, 0x218F), (0x2C00, 0x2FEF),
    (0x3001, 0xD7FF), (0xF900, 0xFDCF), (0xFDF0, 0xFFFD), (0x10000, 0xEFFFF)].any
    fun (r : Nat × Nat) => r.1 ≤ c.toNat && c.toNat ≤ r.2

/-- A text that may be a name. -/
def IsName (name : String) : Prop := name.toList ≠ [] ∧ ∀ c ∈ name.toList, isNameChar c = true

instance (name : String) : Decidable (IsName name) :=
  decidable_of_iff (name.toList ≠ [] ∧ name.toList.all isNameChar = true) (by simp [IsName])

/-- The characters that mean something in a tag. -/
def tagMarks : List Char := [' ', '\t', '\r', '\n', '<', '>', '"', '\'', '=', '/', '!', '?']

theorem ne_of_isNameChar {c d : Char} (h : isNameChar c = true) (hd : d ∈ tagMarks) : c ≠ d := by
  rintro rfl
  have hmarks : tagMarks.all (fun d => !isNameChar d) = true := by decide
  have := List.all_eq_true.mp hmarks c hd
  simp [h] at this

theorem isSpace_of_isNameChar {c : Char} (h : isNameChar c = true) : isSpace c = false := by
  have hne : ∀ d ∈ [' ', '\t', '\r', '\n'], c ≠ d := fun d hd => ne_of_isNameChar h (List.mem_append_left _ hd)
  simp only [List.forall_mem_cons, List.not_mem_nil, false_implies, implies_true, and_true] at hne
  simp [isSpace, hne]

/-! ### The end of a tag -/

/-- A cut with something in front of its content. -/
def Cut.prepend (cs : List Char) (cut : Cut) : Cut := { cut with content := cs ++ cut.content }

/-- A tag does not end inside of these characters. -/
def Passes (cs : List Char) : Prop := ∀ rest, cutTag none (cs ++ rest) = (cutTag none rest).map (Cut.prepend cs)

namespace Passes

theorem nil : Passes [] := by
  intro rest
  cases h : cutTag none rest <;> simp [Cut.prepend, h]

theorem append {cs ds : List Char} (h : Passes cs) (h' : Passes ds) : Passes (cs ++ ds) := by
  intro rest
  rw [List.append_assoc, h, h']
  cases cutTag none rest <;> simp [Cut.prepend]

theorem flatMap {α : Type} {xs : List α} {f : α → List Char} (h : ∀ x ∈ xs, Passes (f x)) : Passes (xs.flatMap f) := by
  induction xs with
  | nil => exact nil
  | cons x rest ih =>
      rw [List.flatMap_cons]
      exact (h x List.mem_cons_self).append (ih fun y hy => h y (List.mem_cons_of_mem _ hy))

theorem singleton {c : Char} (h : c ≠ '>' ∧ c ≠ '"' ∧ c ≠ '\'') : Passes [c] := by
  intro rest
  simp only [List.singleton_append, cutTag, if_neg h.1]
  cases hrest : cutTag none rest <;> simp [h, hrest, Cut.prepend]

theorem of_plain {cs : List Char} (h : ∀ c ∈ cs, c ≠ '>' ∧ c ≠ '"' ∧ c ≠ '\'') : Passes cs := by
  have hchars : Passes (cs.flatMap fun c => [c]) := flatMap fun c hc => singleton (h c hc)
  simpa using hchars

/-- A tag does not end inside of quotes. -/
theorem quoted {quote : Char} (hquote : quote = '"' ∨ quote = '\'') {cs : List Char} (h : ∀ c ∈ cs, c ≠ quote) :
    Passes (quote :: (cs ++ [quote])) := by
  have hinside : ∀ rest, cutTag (some quote) (cs ++ quote :: rest) =
      (cutTag none rest).map (Cut.prepend (cs ++ [quote])) := by
    intro rest
    induction cs with
    | nil => cases h : cutTag none rest <;> simp [cutTag, Cut.prepend, h]
    | cons c cs ih =>
        have hc : c ≠ quote := h c List.mem_cons_self
        rw [List.cons_append, cutTag]
        simp only [if_neg hc, ih fun d hd => h d (List.mem_cons_of_mem _ hd)]
        cases cutTag none rest <;> simp [Cut.prepend]
  intro rest
  have hopen : quote ≠ '>' := by rcases hquote with rfl | rfl <;> decide
  have hstart : (decide (quote = '"') || decide (quote = '\'')) = true := by simpa using hquote
  rw [List.cons_append, List.append_assoc, List.singleton_append, cutTag]
  simp only [if_neg hopen, hstart, if_true, hinside]
  cases cutTag none rest <;> simp [Cut.prepend]

/-- The tag ends with the first bracket behind these characters. -/
theorem cutTag_eq {cs : List Char} (h : Passes cs) (rest : List Char) : cutTag none (cs ++ '>' :: rest) = some ⟨cs, rest⟩ := by
  rw [h]
  simp [cutTag, Cut.prepend]

end Passes

theorem IsName.passes {name : String} (h : IsName name) : Passes name.toList :=
  .of_plain fun c hc => ⟨ne_of_isNameChar (h.2 c hc) (by decide), ne_of_isNameChar (h.2 c hc) (by decide),
    ne_of_isNameChar (h.2 c hc) (by decide)⟩

/-! ### Attributes -/

/-- The quotes around a value. -/
inductive Quote where
  | double
  | single
  deriving Repr, DecidableEq, Inhabited

def Quote.char : Quote → Char
  | double => '"'
  | single => '\''

theorem Quote.char_eq (q : Quote) : q.char = '"' ∨ q.char = '\'' := by
  cases q
  · exact Or.inl rfl
  · exact Or.inr rfl

/-- An attribute and the quotes that its value is written in. -/
structure WrittenAttribute where
  key : String
  value : String
  quote : Quote := .double
  deriving Repr, DecidableEq, Inhabited

namespace WrittenAttribute

def pair (a : WrittenAttribute) : String × String := (a.key, a.value)

/-- The attribute as it is written, with the space in front of it. -/
def chars (a : WrittenAttribute) : List Char :=
  ' ' :: (a.key.toList ++ '=' :: (a.quote.char :: (escape a.value.toList ++ [a.quote.char])))

theorem ne_quote_of_mem_escape {cs : List Char} {q : Quote} {c : Char} (h : c ∈ escape cs) : c ≠ q.char := by
  have hc := isSpecial_of_mem_escape h
  rintro rfl
  cases q <;> cases hc

theorem passes_chars {a : WrittenAttribute} (h : IsName a.key) : Passes a.chars := by
  have hvalue : Passes (a.quote.char :: (escape a.value.toList ++ [a.quote.char])) :=
    .quoted a.quote.char_eq fun c hc => ne_quote_of_mem_escape hc
  have hall := (Passes.singleton (c := ' ') (by decide)).append
    (h.passes.append ((Passes.singleton (c := '=') (by decide)).append hvalue))
  simpa [chars] using hall

end WrittenAttribute

/-! ### Reading attributes -/

section placed

variable (p : Char → Bool)

theorem takeWhile_placed (start : Nat) (cs : List Char) :
    ((placed start cs).takeWhile fun c => p c.char).map (·.char) = cs.takeWhile p := by
  induction cs generalizing start with
  | nil => rfl
  | cons c rest ih =>
      simp only [placed, List.takeWhile_cons]
      cases p c <;> simp [ih]

theorem exists_dropWhile_placed (start : Nat) (cs : List Char) :
    ∃ start', (placed start cs).dropWhile (fun c => p c.char) = placed start' (cs.dropWhile p) := by
  induction cs generalizing start with
  | nil => exact ⟨start, rfl⟩
  | cons c rest ih =>
      simp only [placed, List.dropWhile_cons]
      cases p c with
      | true => exact ih _
      | false => exact ⟨start, rfl⟩

end placed

/-- What the reader of attributes does with one that it can read. -/
theorem readAttributes_of_read {stop : Nat} {seen : List (List Char × Nat)} {cs others : List Placed} {first : Placed}
    {a : RawAttribute} {value : List Char} (hskip : skipSpace cs = first :: others)
    (hread : readAttribute stop seen first others = .ok a) (hvalue : unescape a.value = .ok value) :
    readAttributes stop seen cs = (readAttributes stop ((a.key, a.place) :: seen) a.rest).map
      ((String.ofList a.key, String.ofList value) :: ·) := by
  rw [readAttributes]
  split
  · rename_i hnil
    rw [hskip] at hnil
    cases hnil
  · rename_i hcons
    rw [hskip] at hcons
    cases hcons
    split
    · rename_i herror
      rw [hread] at herror
      cases herror
    · rename_i hok
      rw [hread] at hok
      cases hok
      rw [hvalue]

/-- The white space in front is dropped, and nothing else. -/
theorem skipSpace_placed_of_not_space {start : Nat} {c : Char} {rest : List Char} (h : isSpace c = false) :
    skipSpace (placed start (c :: rest)) = ⟨start, c⟩ :: placed (start + c.utf8Size) rest := by
  simp [skipSpace, placed, h]

/-- The reader finds a value as it was written. -/
theorem readValue_written (stop start : Nat) (q : Quote) {value : List Char} (h : ∀ c ∈ value, c ≠ q.char)
    (rest : List Char) :
    ∃ start', readValue stop (placed start (q.char :: (value ++ q.char :: rest))) = .ok (value, placed start' rest) := by
  have hinside : ∀ c ∈ value, decide (c ≠ q.char) = true := fun c hc => decide_eq_true (h c hc)
  obtain ⟨start', hdrop⟩ := exists_dropWhile_placed (fun c => decide (c ≠ q.char)) (start + q.char.utf8Size)
    (value ++ q.char :: rest)
  have htake := takeWhile_placed (fun c => decide (c ≠ q.char)) (start + q.char.utf8Size) (value ++ q.char :: rest)
  rw [List.dropWhile_append_of_pos hinside, List.dropWhile_cons_of_neg (by simp)] at hdrop
  rw [List.takeWhile_append_of_pos hinside, List.takeWhile_cons_of_neg (by simp), List.append_nil] at htake
  refine ⟨start' + q.char.utf8Size, ?_⟩
  have hspace : isSpace q.char = false := by cases q <;> decide
  have hquote : (decide (q.char = '"') || decide (q.char = '\'')) = true := by cases q <;> decide
  rw [readValue, skipSpace_placed_of_not_space hspace]
  simp only [hquote, if_true, hdrop, htake, placed]

/-- The reader finds an attribute as it was written. -/
theorem readAttribute_written (stop start : Nat) {seen : List (List Char × Nat)} {a : WrittenAttribute} (h : IsName a.key)
    (hnew : a.key.toList ∉ seen.map Prod.fst) (rest : List Char) :
    ∃ first others place start', skipSpace (placed start (a.chars ++ rest)) = first :: others ∧
      readAttribute stop seen first others =
        .ok ⟨place, a.key.toList, escape a.value.toList, placed start' rest⟩ := by
  obtain ⟨hne, hchars⟩ := h
  obtain ⟨c, key, hkey⟩ := List.exists_cons_of_ne_nil hne
  rw [hkey] at hchars hnew
  let inName (c : Char) : Bool := c ≠ '=' && !isSpace c
  have hinside : ∀ c ∈ key, inName c = true := by
    intro d hd
    have hd := hchars d (List.mem_cons_of_mem _ hd)
    simp [inName, ne_of_isNameChar hd (by decide : '=' ∈ tagMarks), isSpace_of_isNameChar hd]
  let tail : List Char := a.quote.char :: (escape a.value.toList ++ a.quote.char :: rest)
  obtain ⟨start₁, hdrop⟩ := exists_dropWhile_placed inName (start + ' '.utf8Size + c.utf8Size) (key ++ '=' :: tail)
  have htake := takeWhile_placed inName (start + ' '.utf8Size + c.utf8Size) (key ++ '=' :: tail)
  rw [List.dropWhile_append_of_pos hinside, List.dropWhile_cons_of_neg (by simp [inName])] at hdrop
  rw [List.takeWhile_append_of_pos hinside, List.takeWhile_cons_of_neg (by simp [inName]), List.append_nil] at htake
  obtain ⟨start₂, hvalue⟩ := readValue_written stop (start₁ + '='.utf8Size) a.quote
    (fun c hc => WrittenAttribute.ne_quote_of_mem_escape hc) rest
  refine ⟨⟨start + ' '.utf8Size, c⟩, placed (start + ' '.utf8Size + c.utf8Size) (key ++ '=' :: tail),
    start + ' '.utf8Size, start₂, ?_, ?_⟩
  · have hc := isSpace_of_isNameChar (hchars c List.mem_cons_self)
    have hspace : a.chars ++ rest = ' ' :: (c :: (key ++ '=' :: tail)) := by simp [WrittenAttribute.chars, hkey, tail]
    rw [hspace]
    simp [skipSpace, placed, hc, show isSpace ' ' = true by decide]
  · have hlookup : seen.lookup (c :: key) = none := by
      rw [List.lookup_eq_none_iff]
      intro entry hentry
      have hne : c :: key ≠ entry.1 := fun heq => hnew (List.mem_map.mpr ⟨entry, hentry, heq.symm⟩)
      simpa using hne
    have hkeyEnd : (placed (start + ' '.utf8Size + c.utf8Size) (key ++ '=' :: tail)).dropWhile inKey =
        placed start₁ ('=' :: tail) := hdrop
    have hkeyChars : ((placed (start + ' '.utf8Size + c.utf8Size) (key ++ '=' :: tail)).takeWhile inKey).map (·.char) =
        key := htake
    rw [readAttribute, hkeyEnd, hkeyChars, skipSpace_placed_of_not_space (by decide)]
    simp only [if_true, hlookup]
    rw [hvalue, hkey]
    rfl

/-- The reader finds the attributes as they were written. -/
theorem readAttributes_written {stop start : Nat} {seen : List (List Char × Nat)} {attributes : List WrittenAttribute}
    (hnames : ∀ a ∈ attributes, IsName a.key) (hnodup : (attributes.map (·.key)).Nodup)
    (hnew : ∀ a ∈ attributes, a.key.toList ∉ seen.map Prod.fst) :
    readAttributes stop seen (placed start (attributes.flatMap WrittenAttribute.chars)) =
      .ok (attributes.map WrittenAttribute.pair) := by
  induction attributes generalizing start seen with
  | nil =>
      rw [readAttributes]
      rfl
  | cons a rest ih =>
      obtain ⟨hne, hnodup⟩ := List.nodup_cons.mp hnodup
      obtain ⟨first, others, place, start', hskip, hread⟩ := readAttribute_written stop start
        (hnames a List.mem_cons_self) (hnew a List.mem_cons_self) (rest.flatMap WrittenAttribute.chars)
      rw [List.flatMap_cons, readAttributes_of_read hskip hread (unescape_escape _), ih]
      · simp [Except.map, WrittenAttribute.pair]
      · exact fun b hb => hnames b (List.mem_cons_of_mem _ hb)
      · exact hnodup
      · intro b hb
        have hother : b.key.toList ≠ a.key.toList := by
          intro heq
          exact hne (List.mem_map.mpr ⟨b, hb, String.toList_inj.mp heq⟩)
        simpa [hother] using hnew b (List.mem_cons_of_mem _ hb)

/-! ### Whole tags -/

/-- A tag without its brackets: its name and its attributes. -/
def tagContent (name : String) (attributes : List WrittenAttribute) : List Char :=
  name.toList ++ attributes.flatMap WrittenAttribute.chars

/-- What a tag needs so that it can be read back. -/
structure IsTag (name : String) (attributes : List WrittenAttribute) : Prop where
  name : IsName name
  keys : ∀ a ∈ attributes, IsName a.key
  nodup : (attributes.map (·.key)).Nodup

section tag

variable {name : String} {attributes : List WrittenAttribute} (h : IsTag name attributes) (openNames : List String)
  (rest : List Char)
include h

theorem IsTag.passes : Passes (tagContent name attributes) :=
  h.name.passes.append (.flatMap fun a ha => WrittenAttribute.passes_chars (h.keys a ha))

/-- The last character of a tag belongs to its name or is a quote. -/
theorem IsTag.getLast?_ne : (tagContent name attributes).getLast? ≠ some '/' := by
  rcases List.eq_nil_or_concat attributes with rfl | ⟨front, last, rfl⟩
  · intro hlast
    rw [tagContent, List.flatMap_nil, List.append_nil] at hlast
    exact ne_of_isNameChar (h.name.2 '/' (List.mem_of_getLast? hlast)) (by decide) rfl
  · have hsplit : tagContent name (front.concat last) = tagContent name front ++
        ' ' :: (last.key.toList ++ '=' :: last.quote.char :: escape last.value.toList) ++ [last.quote.char] := by
      simp [tagContent, WrittenAttribute.chars]
    rw [hsplit, List.getLast?_concat]
    cases last.quote <;> decide

/-- The name of a tag ends where the space in front of the first attribute stands. -/
theorem IsTag.takeWhile_eq : (tagContent name attributes).takeWhile (!isSpace ·) = name.toList := by
  have hname : ∀ c ∈ name.toList, (!isSpace c) = true := fun c hc => by rw [isSpace_of_isNameChar (h.name.2 c hc)]; rfl
  rw [tagContent, List.takeWhile_append_of_pos hname]
  cases attributes with
  | nil => simp
  | cons a rest =>
      have hspace : isSpace ' ' = true := by decide
      simp [WrittenAttribute.chars, hspace]

/-- The attributes of a tag stand behind its name. -/
theorem IsTag.readAttributes_eq (stop start : Nat) :
    readAttributes stop [] (placed start ((tagContent name attributes).drop name.toList.length)) =
      .ok (attributes.map WrittenAttribute.pair) := by
  rw [tagContent, List.drop_left]
  exact readAttributes_written h.keys h.nodup fun _ _ => List.not_mem_nil

/-- A reader finds a start tag as it was written. -/
theorem readStartTag_written :
    readStartTag openNames (tagContent name attributes ++ '>' :: rest) =
      .ok ⟨[.startTag name ⟨attributes.map WrittenAttribute.pair⟩], name :: openNames, rest⟩ := by
  rw [readStartTag, h.passes.cutTag_eq]
  simp only [if_neg h.getLast?_ne, h.takeWhile_eq, h.readAttributes_eq, String.ofList_toList]
  rfl

/-- A reader finds a tag without content as it was written, and makes two tags of it. -/
theorem readStartTag_written_empty :
    readStartTag openNames (tagContent name attributes ++ '/' :: '>' :: rest) =
      .ok ⟨[.startTag name ⟨attributes.map WrittenAttribute.pair⟩, .endTag name], openNames, rest⟩ := by
  have hpasses : Passes (tagContent name attributes ++ ['/']) := h.passes.append (.singleton (by decide))
  have hcut := hpasses.cutTag_eq rest
  rw [List.append_assoc, List.singleton_append] at hcut
  rw [readStartTag, hcut]
  simp only [List.getLast?_concat, if_true, List.dropLast_concat, h.takeWhile_eq, h.readAttributes_eq,
    String.ofList_toList]
  rfl

end tag

/-- A reader finds an end tag as it was written. -/
theorem readEndTag_written {name : String} (h : IsName name) (openNames : List String) (rest : List Char) :
    readEndTag (name :: openNames) (name.toList ++ '>' :: rest) = .ok ⟨[.endTag name], openNames, rest⟩ := by
  have hspace : ∀ c ∈ name.toList.reverse, isSpace c = false := fun c hc =>
    isSpace_of_isNameChar (h.2 c (List.mem_reverse.mp hc))
  have hname : (name.toList.reverse.dropWhile isSpace).reverse = name.toList := by
    obtain ⟨c, others, hreverse⟩ := List.exists_cons_of_ne_nil (mt List.reverse_eq_nil_iff.mp h.1)
    rw [hreverse, List.dropWhile_cons_of_neg (by simp [hspace c (hreverse ▸ List.mem_cons_self)]), ← hreverse,
      List.reverse_reverse]
  have hend : endName name.toList = name.toList := by
    unfold endName
    dsimp only
    rw [hname, ite_self]
  rw [readEndTag, h.passes.cutTag_eq]
  simp only [hend, String.ofList_toList, if_true]

end SchemaBinding.Markup
