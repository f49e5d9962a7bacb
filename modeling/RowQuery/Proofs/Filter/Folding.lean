import Mathlib.Data.List.Forall2
import RowQuery.Filter.Condition
import RowQuery.Proofs.Outcome
import RowQuery.Proofs.Text.Search

/-!
# Text filters without regard to case

Without regard to case both sides of a text condition are folded as a whole, and the folded needle
is sought in the folded text. Because folding goes character by character, this finds exactly the
pieces of the text itself that agree with the needle in every place up to case. What agrees exactly
agrees up to case, so that an operator that asks for a match never loses one this way.
-/
namespace RowQuery
open Outcome

/-- Two characters that differ at most in their case. -/
def Text.SameFold (c d : Char) : Prop := foldChar c = foldChar d

/-- The characters that count as the same with or without regard to case. -/
def Text.SameChar (ignoreCase : Bool) (c d : Char) : Prop :=
  if ignoreCase then SameFold c d else c = d

/-- Mapped texts are equal exactly when the texts agree in every place up to the map. -/
theorem Text.map_eq_map_iff (f : Char → Char) (piece needle : List Char) :
    needle.map f = piece.map f ↔ List.Forall₂ (fun c d => f c = f d) piece needle := by
  rw [← List.forall₂_map_right_iff, ← List.forall₂_map_left_iff, List.forall₂_eq_eq_eq]
  exact eq_comm

namespace TextOp

/-- What an operator asks of a text and a needle, where it is settled for two characters whether
they count as the same: a piece agrees with the needle when it has as many characters, each the same
as the needle's in its place. -/
def Relates (same : Char → Char → Prop) (op : TextOp) (text needle : List Char) : Prop :=
  match op with
  | equals => List.Forall₂ same text needle
  | notEquals => ¬ List.Forall₂ same text needle
  | contains => ∃ piece, piece <:+: text ∧ List.Forall₂ same piece needle
  | notContains => ¬ ∃ piece, piece <:+: text ∧ List.Forall₂ same piece needle
  | startsWith => ∃ piece, piece <+: text ∧ List.Forall₂ same piece needle
  | endsWith => ∃ piece, piece <:+ text ∧ List.Forall₂ same piece needle
  | blank => text = []
  | notBlank => text ≠ []

/-- The operators that ask for a match of the needle. -/
def seeking : List TextOp := [equals, contains, startsWith, endsWith]

/-- The more characters count as the same, the more a seeking operator finds. -/
theorem Relates.mono {same same' : Char → Char → Prop} (wider : ∀ c d, same c d → same' c d)
    {op : TextOp} (seeks : op ∈ seeking) {text needle : List Char}
    (related : op.Relates same text needle) : op.Relates same' text needle := by
  cases op with
  | equals => exact List.Forall₂.imp wider related
  | contains | startsWith | endsWith =>
    obtain ⟨piece, placed, agrees⟩ := related
    exact ⟨piece, placed, agrees.imp wider⟩
  | notEquals | notContains | blank | notBlank => simp [seeking] at seeks

/-- An operator on mapped texts asks for agreement up to the map in the texts themselves. -/
theorem accepts_map_iff (f : Char → Char) (op : TextOp) (text needle : List Char) :
    op.accepts (text.map f) (needle.map f) = true ↔
      op.Relates (fun c d => f c = f d) text needle := by
  cases op with
  | equals => rw [accepts, beq_iff_eq, eq_comm, Text.map_eq_map_iff, Relates]
  | notEquals => rw [accepts, bne_iff_ne, Ne, eq_comm, Text.map_eq_map_iff, Relates]
  | contains =>
    simp only [accepts, Text.contains_iff, List.infix_map_iff, Text.map_eq_map_iff, Relates]
  | notContains =>
    simp only [accepts, Bool.not_eq_true', Bool.eq_false_iff, Ne, Text.contains_iff,
      List.infix_map_iff, Text.map_eq_map_iff, Relates]
  | startsWith =>
    simp only [accepts, Text.startsWith_iff, List.prefix_map_iff, Text.map_eq_map_iff, Relates]
  | endsWith =>
    simp only [accepts, Text.endsWith_iff, List.suffix_map_iff, Text.map_eq_map_iff, Relates]
  | blank => rw [accepts, List.isEmpty_iff, List.map_eq_nil_iff, Relates]
  | notBlank =>
    rw [accepts, Bool.not_eq_true', List.isEmpty_eq_false_iff, Ne, List.map_eq_nil_iff, Relates]

/-- The form in which texts are compared lets an operator find what counts as the same. -/
theorem accepts_compared_iff (ignoreCase : Bool) (op : TextOp) (text needle : String) :
    op.accepts (compared ignoreCase text).toList (compared ignoreCase needle).toList = true ↔
      op.Relates (Text.SameChar ignoreCase) text.toList needle.toList := by
  cases ignoreCase with
  | false =>
    have plain := accepts_map_iff id op text.toList needle.toList
    rwa [List.map_id, List.map_id] at plain
  | true =>
    have folded := accepts_map_iff Text.foldChar op text.toList needle.toList
    rwa [← Text.toList_fold, ← Text.toList_fold] at folded

end TextOp

variable {R : Type}

namespace TextCondition

/-- A needle that is given reaches the operators that look for it in its compared form, and the
others do not ask for it. -/
theorem needle_of_given (op : TextOp) (needle : String) (ignoreCase : Bool) :
    ∃ sought, TextCondition.needle ⟨op, some needle⟩ ignoreCase = .ok sought ∧
      ∀ text, op.accepts text sought.toList =
        op.accepts text (compared ignoreCase needle).toList := by
  cases op with
  | blank | notBlank => exact ⟨"", rfl, fun _ => rfl⟩
  | _ => exact ⟨compared ignoreCase needle, rfl, fun _ => rfl⟩

/-- A text condition with a needle compiles, to a test that asks of the text of a property what its
operator does. -/
theorem compile_of_given (p : ResolvedProperty R) (op : TextOp) (needle : String)
    (ignoreCase : Bool) :
    ∃ f, compile p ⟨op, some needle⟩ ignoreCase = .ok f ∧
      ∀ row text, (p.get row).text? = some text →
        (f.test row = true ↔
          op.Relates (Text.SameChar ignoreCase) text.toList needle.toList) := by
  obtain ⟨sought, given, same⟩ := needle_of_given op needle ignoreCase
  refine ⟨_, bind_success.2 ⟨sought, given, rfl⟩, fun row text read => ?_⟩
  simp only [read, same]
  exact op.accepts_compared_iff ignoreCase text needle

/-- Without regard to case an operator finds in the text of a property exactly the pieces that agree
with the needle character by character up to case: the whole text, a prefix, a suffix or any piece
between, as long as the needle. The negative operators hold where these do not. What an operator
finds with regard to case it also finds without. -/
theorem compile_ignoring_case (p : ResolvedProperty R) (op : TextOp) (needle : String) :
    ∃ folded exact, compile p ⟨op, some needle⟩ true = .ok folded ∧
      compile p ⟨op, some needle⟩ false = .ok exact ∧
      ∀ row text, (p.get row).text? = some text →
        (folded.test row = true ↔ op.Relates Text.SameFold text.toList needle.toList) ∧
        (op ∈ TextOp.seeking → exact.test row = true → folded.test row = true) := by
  obtain ⟨folded, compiled, finds⟩ := compile_of_given p op needle true
  obtain ⟨exact, compiledExact, findsExact⟩ := compile_of_given p op needle false
  refine ⟨folded, exact, compiled, compiledExact, fun row text read => ⟨finds row text read, ?_⟩⟩
  intro seeks found
  have wider : ∀ c d, Text.SameChar false c d → Text.SameChar true c d := by
    rintro c _ rfl
    rfl
  exact (finds row text read).2 (((findsExact row text read).1 found).mono wider seeks)

end TextCondition

/-- A property of rows that are texts themselves. -/
def ownText : ResolvedProperty String := ⟨"Text", .text, false, some, ⟨none, "Text"⟩⟩

/-- The sharp s has no capital of one character and is its own fold, so that it stays in its
place. -/
theorem ownText_contains :
    ∃ folded, TextCondition.compile ownText ⟨.contains, some "RAßE"⟩ true = .ok folded ∧
      folded.test "Straße" = true := by
  obtain ⟨folded, _, compiled, -, finds⟩ :=
    TextCondition.compile_ignoring_case ownText .contains "RAßE"
  have agrees : List.Forall₂ Text.SameFold "raße".toList "RAßE".toList :=
    (Text.map_eq_map_iff Text.foldChar _ _).1 (by decide +kernel)
  exact ⟨folded, compiled,
    (finds "Straße" "Straße" rfl).1.2 ⟨"raße".toList, ⟨"St".toList, [], rfl⟩, agrees⟩⟩

end RowQuery
