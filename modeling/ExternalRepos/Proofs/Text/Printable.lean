import Mathlib.Tactic.SplitIfs
import ExternalRepos.Decimal.Written
import ExternalRepos.Text.Escaped

/-!
# Printable texts

A text is printable when every character of it may be shown as it is. No line of text
ends inside such a text, whatever is taken for the end of a line
(`IsPrintable.not_mem_of_lineBreak`). Sanitized text is printable, and so is everything
that is written by escapes: an escape consists of graphic ASCII characters, and what is
not escaped was printable before. The written forms of numbers are ASCII too.
-/

namespace ExternalRepos.Text

/-- Every character of a text may be shown as it is. -/
def IsPrintable (text : String) : Prop :=
  ∀ char ∈ text.toList, isPrintable char = true

instance (text : String) : Decidable (IsPrintable text) :=
  decidable_of_iff (text.toList.all isPrintable = true) List.all_eq_true

/-- The characters that end a line of text in some convention or other. -/
def lineBreaks : List Char :=
  ['\n', '\x0b', '\x0c', '\r', '\x1c', '\x1d', '\x1e', '\u0085', '\u2028', '\u2029']

/-- A text that is printable, and that stays on the line it is put on. -/
structure IsLine (text : String) : Prop where
  printable : IsPrintable text
  unbroken : ∀ char ∈ lineBreaks, char ∉ text.toList

theorem isPrintable_of_lineBreak {char : Char} (ends : char ∈ lineBreaks) :
    isPrintable char = false := by
  have none : lineBreaks.any isPrintable = false := by decide +kernel
  rw [← Bool.not_eq_true]
  exact List.any_eq_false.1 none char ends

theorem IsPrintable.not_mem_of_lineBreak {text : String} (printable : IsPrintable text)
    {char : Char} (ends : char ∈ lineBreaks) : char ∉ text.toList := by
  intro shown
  have visible := printable char shown
  rw [isPrintable_of_lineBreak ends] at visible
  cases visible

theorem IsPrintable.isLine {text : String} (printable : IsPrintable text) : IsLine text :=
  ⟨printable, fun _ ends => printable.not_mem_of_lineBreak ends⟩

@[simp]
theorem isPrintable_append {left right : String} :
    IsPrintable (left ++ right) ↔ IsPrintable left ∧ IsPrintable right := by
  simp only [IsPrintable, String.toList_append, List.forall_mem_append]

/-- What stands between two printable marks is printable with them. -/
theorem isPrintable_between {opening inside closing : String} (opens : IsPrintable opening)
    (printable : IsPrintable inside) (closes : IsPrintable closing) :
    IsPrintable (opening ++ inside ++ closing) :=
  isPrintable_append.2 ⟨isPrintable_append.2 ⟨opens, printable⟩, closes⟩

@[simp]
theorem isPrintable_sanitize (text : String) : IsPrintable (sanitize text) :=
  fun _ shown => isPrintable_of_mem_sanitize shown

theorem isPrintable_intercalate {separator : String} {items : List String}
    (between : IsPrintable separator) (each : ∀ item ∈ items, IsPrintable item) :
    IsPrintable (separator.intercalate items) := by
  rw [IsPrintable, String.toList_intercalate]
  induction items with
  | nil => simp
  | cons first rest ih =>
      rcases List.forall_mem_cons.1 each with ⟨firstPrintable, restPrintable⟩
      cases rest with
      | nil => simpa [IsPrintable] using firstPrintable
      | cons second others =>
          rw [List.map_cons, List.map_cons, List.intercalate_cons_cons]
          simp only [List.forall_mem_append]
          exact ⟨⟨firstPrintable, between⟩, ih restPrintable⟩

/-! ## Escapes -/

theorem isPrintable_of_isGraphic {char : Char} (graphic : isGraphic char = true) :
    isPrintable char = true := by
  simp only [isGraphic, Bool.and_eq_true, decide_eq_true_eq] at graphic
  simp [isPrintable, graphic]

theorem isGraphic_ofNat {code : Nat} (least : 0x20 ≤ code) (below : code < 0x7f) :
    isGraphic (Char.ofNat code) = true := by
  have every : ∀ code : Fin 0x7f, 0x20 ≤ code.1 → isGraphic (Char.ofNat code.1) = true := by decide
  exact every ⟨code, below⟩ least

theorem isPrintable_of_mem_codeEscape {code : Nat} {char : Char}
    (shown : char ∈ codeEscape code) : isPrintable char = true := by
  apply isPrintable_of_isGraphic
  unfold codeEscape at shown
  split_ifs at shown
  all_goals
    simp only [List.mem_cons] at shown
    rcases shown with rfl | rfl | digit
    · decide
    · decide
    · exact isGraphic_of_mem_hexDigits digit

/-- The marks that surround a text are printable. -/
theorem isPrintable_quoteMark (text : List Char) : isPrintable (quoteMark text) = true := by
  unfold quoteMark
  split <;> decide

theorem isPrintable_of_shortEscape? {mark char shown : Char} {escape : List Char}
    (printable : isPrintable mark = true) (short : shortEscape? mark char = some escape)
    (mem : shown ∈ escape) : isPrintable shown = true := by
  unfold shortEscape? at short
  split_ifs at short with special
  -- a mark or backslash stands for itself after the backslash, the controls for letters
  · cases short
    simp only [List.mem_cons, List.not_mem_nil, or_false] at mem
    rcases mem with rfl | rfl
    · decide
    · rcases special with rfl | rfl
      · exact printable
      · decide
  all_goals
    cases short
    simp only [List.mem_cons, List.not_mem_nil, or_false] at mem
    rcases mem with rfl | rfl
    · decide
    · decide

theorem isPrintable_of_mem_quoteChar {mark char shown : Char}
    (printable : isPrintable mark = true) (mem : shown ∈ quoteChar mark char) :
    isPrintable shown = true := by
  unfold quoteChar at mem
  split at mem
  · rename_i escape short
    exact isPrintable_of_shortEscape? printable short mem
  · split at mem
    · rename_i visible
      rw [List.mem_singleton.1 mem]
      exact visible
    · exact isPrintable_of_mem_codeEscape mem

theorem isPrintable_of_mem_quoteByte {mark shown : Char} {byte : UInt8}
    (printable : isPrintable mark = true) (mem : shown ∈ quoteByte mark byte) :
    isPrintable shown = true := by
  simp only [quoteByte] at mem
  split at mem
  · rename_i escape short
    exact isPrintable_of_shortEscape? printable short mem
  · split at mem
    · rename_i graphic
      have bounds : 0x20 ≤ byte.toNat ∧ byte.toNat < 0x7f := graphic
      rw [List.mem_singleton.1 mem]
      exact isPrintable_of_isGraphic (isGraphic_ofNat bounds.1 bounds.2)
    · exact isPrintable_of_mem_codeEscape mem

/-- A text between marks is printable if what stands between them is. -/
theorem isPrintable_marked {α : Type} {mark : Char} {write : α → List Char} {parts : List α}
    (printable : isPrintable mark = true)
    (each : ∀ part shown, shown ∈ write part → isPrintable shown = true) :
    ∀ char ∈ mark :: parts.flatMap write ++ [mark], isPrintable char = true := by
  simp only [List.cons_append, List.forall_mem_cons, List.forall_mem_append,
    List.forall_mem_flatMap, List.not_mem_nil, false_implies, implies_true, and_true]
  exact ⟨printable, fun part _ => each part, printable⟩

@[simp]
theorem isPrintable_quote (text : String) : IsPrintable (quote text) := by
  have mark := isPrintable_quoteMark text.toList
  rw [IsPrintable, quote, String.toList_ofList]
  exact isPrintable_marked mark fun _ _ => isPrintable_of_mem_quoteChar mark

@[simp]
theorem isPrintable_quoteBytes (bytes : List UInt8) : IsPrintable (quoteBytes bytes) := by
  have mark := isPrintable_quoteMark (bytes.map fun byte => Char.ofNat byte.toNat)
  rw [IsPrintable, quoteBytes, String.toList_ofList, List.cons_append, List.forall_mem_cons]
  exact ⟨by decide, isPrintable_marked mark fun _ _ => isPrintable_of_mem_quoteByte mark⟩

/-! ## Numbers -/

theorem isPrintable_of_isDigit {char : Char} (digit : char.isDigit = true) :
    isPrintable char = true := by
  apply isPrintable_of_isGraphic
  simp only [Char.isDigit, Bool.and_eq_true, decide_eq_true_eq, ge_iff_le,
    UInt32.le_iff_toNat_le] at digit
  change 48 ≤ char.toNat ∧ char.toNat ≤ 57 at digit
  simp only [isGraphic, Bool.and_eq_true, decide_eq_true_eq]
  omega

theorem isPrintable_of_mem_toDigits {number : Nat} {char : Char}
    (shown : char ∈ Nat.toDigits 10 number) : isPrintable char = true :=
  isPrintable_of_isDigit (Nat.isDigit_of_mem_toDigits (by decide) (by decide) shown)

theorem isPrintable_repr (number : Nat) : IsPrintable number.repr := by
  rw [IsPrintable, Nat.repr, String.toList_ofList]
  exact fun _ => isPrintable_of_mem_toDigits

@[simp]
theorem isPrintable_toString (integer : Int) : IsPrintable (toString integer) := by
  show IsPrintable integer.repr
  cases integer with
  | ofNat number => exact isPrintable_repr number
  | negSucc number =>
      exact isPrintable_append.2 ⟨by decide, isPrintable_repr (number + 1)⟩

end ExternalRepos.Text

namespace ExternalRepos.Decimal

open Text

variable {digits : List Char}

theorem isPrintable_of_mem_padded (printable : ∀ char ∈ digits, isPrintable char = true)
    (width : Nat) : ∀ char ∈ padded width digits, isPrintable char = true := by
  rw [padded, List.forall_mem_append]
  refine ⟨?_, printable⟩
  intro char zero
  rw [List.eq_of_mem_replicate zero]
  decide

theorem isPrintable_of_mem_positional (printable : ∀ char ∈ digits, isPrintable char = true)
    (places : Int) : ∀ char ∈ positional digits places, isPrintable char = true := by
  have zeros : ∀ count, ∀ char ∈ List.replicate count '0', isPrintable char = true := by
    intro count char zero
    rw [List.eq_of_mem_replicate zero]
    decide
  have ending : isPrintable '.' = true ∧ isPrintable '0' = true := by decide
  unfold positional
  split_ifs
  · simp only [List.forall_mem_cons, List.forall_mem_append]
    exact ⟨ending.2, ending.1, zeros _, printable⟩
  · simp only [List.forall_mem_cons, List.forall_mem_append]
    exact ⟨⟨printable, zeros _⟩, ending.1, ending.2, by simp⟩
  · simp only [List.forall_mem_cons, List.forall_mem_append]
    exact ⟨fun char shown => printable char (List.mem_of_mem_take shown), ending.1,
      fun char shown => printable char (List.mem_of_mem_drop shown)⟩

theorem isPrintable_of_mem_withExponent (printable : ∀ char ∈ digits, isPrintable char = true)
    (width : Nat) (exponent : Int) :
    ∀ char ∈ withExponent width digits exponent, isPrintable char = true := by
  have sign : isPrintable (if exponent < 0 then '-' else '+') = true := by
    split <;> decide
  have printed : ∀ char ∈ digitsOf exponent.natAbs, isPrintable char = true :=
    fun _ => isPrintable_of_mem_toDigits
  have power := isPrintable_of_mem_padded printed width
  simp only [withExponent, List.forall_mem_append, List.forall_mem_cons]
  refine ⟨?_, by decide, sign, power⟩
  split
  · simp only [List.forall_mem_cons] at printable ⊢
    exact ⟨printable.1, by decide, printable.2⟩
  · exact printable

theorem isPrintable_of_mem_decimal (style : Style) (decimal : Scientific) :
    ∀ char ∈ style.decimal decimal, isPrintable char = true := by
  have digits : ∀ char ∈ digitsOf decimal.digits, isPrintable char = true :=
    fun _ => isPrintable_of_mem_toDigits
  simp only [Style.decimal]
  split
  · exact isPrintable_of_mem_positional digits _
  · exact isPrintable_of_mem_withExponent digits _ _

/-- A number is written by printable characters if the words of its style are printable. -/
theorem isPrintable_write {style : Style} (notANumber : IsPrintable style.notANumber)
    (infinity : IsPrintable style.infinity) (number : Binary64) :
    IsPrintable (style.write number) := by
  unfold Style.write
  split
  · exact notANumber
  · have sign : IsPrintable (if number.isNegative then "-" else "") := by
      split <;> decide
    refine isPrintable_append.2 ⟨sign, ?_⟩
    split_ifs
    · exact infinity
    · decide
    · rw [IsPrintable, String.toList_ofList]
      exact isPrintable_of_mem_decimal style _

end ExternalRepos.Decimal
