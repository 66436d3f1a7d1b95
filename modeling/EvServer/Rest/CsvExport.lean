import Mathlib.Data.List.Forall2
import EvServer.Lib.Substitution

/-!
# Values of a CSV export (`Utils.sanitizeCSVExport`)

A text that a spreadsheet would read as a formula is to be escaped by an apostrophe.  The text is
replaced through a regular expression whose dot does not match the end of a line, so a text of
several lines is left as it is; and it is its own replacement, so that the replacement patterns
in it are expanded.
-/

namespace EvServer

/-- A nested value.  The values that are neither texts nor arrays nor objects (undefined, null,
numbers, booleans, symbols and functions) are of a type of their own. -/
inductive CsvData (α : Type)
  | primitive (value : α)
  | string (value : String)
  | array (items : List (CsvData α))
  | object (properties : List (String × CsvData α))

/-- The characters of `Constants.CSV_CHARACTERS_TO_ESCAPE`. -/
def Constants.csvCharactersToEscape : List Char := ['+', '-', '@', '=']

/-- `Constants.CSV_ESCAPING_CHARACTER`. -/
def Constants.csvEscapingCharacter : String := "'"

/-- The characters that the dot of a regular expression does not match. -/
def isLineTerminator (c : Char) : Bool :=
  c = '\n' || c = '\r' || c = Char.ofNat 0x2028 || c = Char.ofNat 0x2029

/-- The text starts with a formula character. -/
def startsFormula (data : String) : Bool :=
  data.toList.head?.any fun c => Constants.csvCharactersToEscape.contains c

/-- `/^[+\-@=].*$/`: a match is the whole text. -/
def matchesCsvCharactersToEscape (data : String) : Bool :=
  startsFormula data && data.toList.tail.all fun c => !isLineTerminator c

/-- What `sanitizeCSVExport` makes of a text. -/
def sanitizeText (data : String) : String :=
  if matchesCsvCharactersToEscape data then
    String.ofList
      (Substitution.expand data.toList (Constants.csvEscapingCharacter ++ data).toList)
  else data

section

variable {α : Type}

mutual

/-- `Utils.sanitizeCSVExport`. -/
def sanitizeCSVExport : (data : CsvData α) → CsvData α
  | .primitive value => .primitive value
  | .string value => .string (sanitizeText value)
  | .array items => .array (sanitizeItems items)
  | .object properties => .object (sanitizeProperties properties)

/-- The items of an array. -/
def sanitizeItems : (items : List (CsvData α)) → List (CsvData α)
  | [] => []
  | item :: items => sanitizeCSVExport item :: sanitizeItems items

/-- The properties of an object. -/
def sanitizeProperties : (properties : List (String × CsvData α)) → List (String × CsvData α)
  | [] => []
  | (key, value) :: properties => (key, sanitizeCSVExport value) :: sanitizeProperties properties

end

mutual

/-- The texts in a value, in order. -/
def CsvData.leaves : CsvData α → List String
  | .primitive _ => []
  | .string value => [value]
  | .array items => leavesOfItems items
  | .object properties => leavesOfProperties properties

def leavesOfItems : List (CsvData α) → List String
  | [] => []
  | item :: items => item.leaves ++ leavesOfItems items

def leavesOfProperties : List (String × CsvData α) → List String
  | [] => []
  | (_, value) :: properties => value.leaves ++ leavesOfProperties properties

end

mutual

/-- The texts of a sanitized value are the sanitized texts. -/
theorem leaves_sanitizeCSVExport : ∀ data : CsvData α,
    (sanitizeCSVExport data).leaves = data.leaves.map sanitizeText
  | .primitive _ => rfl
  | .string _ => rfl
  | .array items => leavesOfItems_sanitizeItems items
  | .object properties => leavesOfProperties_sanitizeProperties properties

theorem leavesOfItems_sanitizeItems : ∀ items : List (CsvData α),
    leavesOfItems (sanitizeItems items) = (leavesOfItems items).map sanitizeText
  | [] => rfl
  | item :: items => by
      rw [sanitizeItems, leavesOfItems, leavesOfItems, List.map_append,
        leaves_sanitizeCSVExport item, leavesOfItems_sanitizeItems items]

theorem leavesOfProperties_sanitizeProperties : ∀ properties : List (String × CsvData α),
    leavesOfProperties (sanitizeProperties properties) =
      (leavesOfProperties properties).map sanitizeText
  | [] => rfl
  | (key, value) :: properties => by
      rw [sanitizeProperties, leavesOfProperties, leavesOfProperties, List.map_append,
        leaves_sanitizeCSVExport value, leavesOfProperties_sanitizeProperties properties]

end

end

/-! ## Escaped texts -/

/-- What a text is to be made: it does not start a formula any more, one that did not is left as it
is, and one that is changed is escaped by an apostrophe. -/
structure IsSanitized (data sanitized : String) : Prop where
  harmless : startsFormula sanitized = false
  unchanged : startsFormula data = false → sanitized = data
  escaped : sanitized ≠ data → sanitized = Constants.csvEscapingCharacter ++ data

/-- The text is of one line and has no replacement pattern. -/
def IsReplaced (data : String) : Prop :=
  (∀ c ∈ data.toList, isLineTerminator c = false) ∧ Substitution.hasPattern data.toList = false

section

variable {data : String}

/-- A text that starts a formula, by its characters. -/
theorem exists_toList_of_startsFormula (starts : startsFormula data) :
    ∃ c rest, data.toList = c :: rest ∧ c ∈ Constants.csvCharactersToEscape := by
  unfold startsFormula at starts
  obtain ⟨c, head, mem⟩ := (Option.any_eq_true _ _).mp starts
  obtain ⟨rest, toList⟩ := List.head?_eq_some_iff.mp head
  exact ⟨c, rest, toList, List.contains_iff_mem.mp mem⟩

/-- No formula character is part of a pattern. -/
theorem not_isQuiet_of_mem {c : Char} (mem : c ∈ Constants.csvCharactersToEscape) :
    ¬ Substitution.IsQuiet c := by
  simp only [Constants.csvCharactersToEscape, List.mem_cons, List.not_mem_nil, or_false] at mem
  unfold Substitution.IsQuiet
  rcases mem with rfl | rfl | rfl | rfl <;> decide

/-- No formula character ends a line. -/
theorem isLineTerminator_of_mem {c : Char} (mem : c ∈ Constants.csvCharactersToEscape) :
    isLineTerminator c = false := by
  simp only [Constants.csvCharactersToEscape, List.mem_cons, List.not_mem_nil, or_false] at mem
  rcases mem with rfl | rfl | rfl | rfl <;> decide

/-- The expression matches the formulas of one line. -/
theorem matchesCsvCharactersToEscape_iff (starts : startsFormula data) :
    matchesCsvCharactersToEscape data ↔ ∀ c ∈ data.toList, isLineTerminator c = false := by
  obtain ⟨c, rest, toList, mem⟩ := exists_toList_of_startsFormula starts
  unfold matchesCsvCharactersToEscape
  rw [starts, Bool.true_and, toList, List.tail_cons, List.all_eq_true, List.forall_mem_cons]
  simp only [Bool.not_eq_true']
  exact (and_iff_right (isLineTerminator_of_mem mem)).symm

/-- The apostrophe of the replacement stands for itself. -/
theorem expand_escapingCharacter {c : Char} {rest matched : List Char} :
    Substitution.expand matched (Constants.csvEscapingCharacter.toList ++ c :: rest) =
      Constants.csvEscapingCharacter.toList ++ Substitution.expand matched (c :: rest) := by
  rfl

/-- A text that the expression matches is put behind an apostrophe, and expanded. -/
theorem toList_sanitizeText (isMatch : matchesCsvCharactersToEscape data) :
    (sanitizeText data).toList =
      Constants.csvEscapingCharacter.toList ++ Substitution.expand data.toList data.toList := by
  obtain ⟨c, rest, toList, -⟩ := exists_toList_of_startsFormula (Bool.and_eq_true_iff.mp isMatch).1
  unfold sanitizeText
  rw [if_pos isMatch, String.toList_ofList, String.toList_append]
  have expanded : Substitution.expand data.toList
      (Constants.csvEscapingCharacter.toList ++ c :: rest) = _ := expand_escapingCharacter
  rwa [← toList] at expanded

/-- **A text.**  It is sanitized unless it starts a formula and has several lines or a replacement
pattern. -/
theorem isSanitized_sanitizeText_iff (data : String) :
    IsSanitized data (sanitizeText data) ↔ (startsFormula data → IsReplaced data) := by
  cases starts : startsFormula data with
  | false =>
      have same : sanitizeText data = data := by
        unfold sanitizeText matchesCsvCharactersToEscape
        rw [starts, Bool.false_and, if_neg Bool.false_ne_true]
      rw [same]
      exact iff_of_true ⟨starts, fun _ => rfl, fun changed => absurd rfl changed⟩
        fun isFormula => absurd isFormula Bool.false_ne_true
  | true =>
      rw [IsReplaced, ← matchesCsvCharactersToEscape_iff starts]
      cases isMatch : matchesCsvCharactersToEscape data with
      | false =>
          have same : sanitizeText data = data := by
            unfold sanitizeText
            rw [isMatch, if_neg Bool.false_ne_true]
          rw [same]
          refine iff_of_false (fun sanitized => ?_) fun replaced =>
            Bool.false_ne_true (replaced rfl).1
          exact Bool.false_ne_true (sanitized.harmless.symm.trans starts)
      | true =>
          obtain ⟨c, rest, toList, mem⟩ := exists_toList_of_startsFormula starts
          have toList' := toList_sanitizeText isMatch
          have harmless : startsFormula (sanitizeText data) = false := by
            unfold startsFormula
            rw [toList']
            rfl
          have changed : sanitizeText data ≠ data := fun same =>
            Bool.false_ne_true (harmless.symm.trans (same.symm ▸ starts))
          have self : Substitution.expand (c :: rest) data.toList = data.toList ↔ _ :=
            Substitution.expand_eq_self_iff (not_isQuiet_of_mem mem) data.toList
          rw [← toList] at self
          have isEscaped : sanitizeText data = Constants.csvEscapingCharacter ++ data ↔
              Substitution.hasPattern data.toList = false := by
            rw [← String.toList_inj, toList', String.toList_append, List.append_cancel_left_eq, self]
          constructor
          · intro sanitized _
            exact ⟨rfl, isEscaped.mp (sanitized.escaped changed)⟩
          · intro replaced
            exact ⟨harmless, fun isNone => absurd (starts.symm.trans isNone) Bool.true_eq_false.mp,
              fun _ => isEscaped.mpr (replaced rfl).2⟩

end

/-- `$$` is a pattern: the reference loses a dollar. -/
example : sanitizeText "=A$$1" = "'=A$1" := by decide +kernel

/-- **A nested value.**  Its texts are sanitized just when those that start a formula are of one
line and have no replacement pattern. -/
theorem forall₂_isSanitized_sanitizeCSVExport_iff {α : Type} (data : CsvData α) :
    List.Forall₂ IsSanitized data.leaves (sanitizeCSVExport data).leaves ↔
      ∀ text ∈ data.leaves, startsFormula text → IsReplaced text := by
  rw [leaves_sanitizeCSVExport, List.forall₂_map_right_iff, List.forall₂_same]
  exact forall₂_congr fun text _ => isSanitized_sanitizeText_iff text

/-- A formula with a line break behind it is exported as it is. -/
theorem not_isSanitized_severalLines :
    ¬ List.Forall₂ IsSanitized
      (CsvData.object (α := Unit) [("description", .string "=1+1\n")]).leaves
      (sanitizeCSVExport (.object (α := Unit) [("description", .string "=1+1\n")])).leaves := by
  have result : (sanitizeCSVExport
      (.object (α := Unit) [("description", .string "=1+1\n")])).leaves = ["=1+1\n"] := by
    decide +kernel
  rw [result]
  intro sanitized
  obtain ⟨sanitized, -⟩ := List.forall₂_cons.mp sanitized
  exact absurd sanitized.harmless (by decide +kernel)

end EvServer
