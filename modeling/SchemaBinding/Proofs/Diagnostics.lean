import SchemaBinding.Diagnostics

/-!
# `SchemaBinding.Proofs.Diagnostics`: findings of one kind

The findings of one kind are found by a part of their message. Where a message begins with a text, the text occurs
in it (`occursIn_append`), and the finding matches that text (`matches_of_message_eq`).
-/

set_option autoImplicit false

namespace SchemaBinding.Diagnostics

/-- The message of a finding has a text in it. -/
def Matches (needle : String) (d : Diagnostic) : Prop :=
  Text.occursIn needle.toList d.message.toList = true

theorem occursIn_append (part rest : List Char) : Text.occursIn part (part ++ rest) = true := by
  cases part with
  | nil => cases rest <;> simp [Text.occursIn]
  | cons c part => simp [Text.occursIn]

theorem matches_of_message_eq {needle : String} (tail : String) {d : Diagnostic} (h : d.message = needle ++ tail) :
    Matches needle d := by
  unfold Matches
  rw [h, String.toList_append]
  exact occursIn_append _ _

theorem matching_append (ds es : Diagnostics) (needle : String) :
    matching (ds ++ es) needle = matching ds needle ++ matching es needle :=
  List.filter_append ..

theorem matching_eq_self {ds : Diagnostics} {needle : String} (h : ∀ d ∈ ds, Matches needle d) :
    matching ds needle = ds :=
  List.filter_eq_self.mpr h

theorem matching_eq_nil {ds : Diagnostics} {needle : String} (h : ∀ d ∈ ds, ¬ Matches needle d) :
    matching ds needle = [] :=
  List.filter_eq_nil_iff.mpr h

end SchemaBinding.Diagnostics
