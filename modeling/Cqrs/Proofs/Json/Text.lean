/-
# Proofs.Json.Text -- a text that is written as JSON is read again

Inside of quotes every character is written so that reading takes it back alone, whatever follows
(`readText_escaped`): by its sign after a backslash, by its number or as it is.  So a text as a
JSON value comes back from what is printed of it (`parse_print_string`).
-/
import Cqrs.Json.Parser
import Cqrs.Json.Printer

namespace Cqrs.Json

set_option autoImplicit false

theorem escaped_length_pos (c : Char) : 0 < (escaped c).length := by
  unfold escaped
  split
  · exact Nat.zero_lt_succ _
  · split <;> exact Nat.zero_lt_succ _

/-- A text is at least as long when it is written. -/
theorem length_le_flatMap_escaped (text : List Char) :
    text.length ≤ (text.flatMap escaped).length := by
  induction text with
  | nil => exact Nat.le_refl 0
  | cons c rest ih =>
      have long := escaped_length_pos c
      rw [List.flatMap_cons, List.length_append, List.length_cons]
      omega

/-- The number of a control character is read back. -/
theorem readUnit_control {code : Nat} (control : code < 0x20) (rest : List Char) :
    readUnit ('0' :: '0' :: Nat.digitChar (code / 16) :: Nat.digitChar (code % 16) :: rest) =
      .ok (code, rest) := by
  have read : ∀ code < 0x20, Number.ofHexDigits?
      ['0', '0', Nat.digitChar (code / 16), Nat.digitChar (code % 16)] = some code := by decide
  simp only [readUnit, read code control]

/-- A control character is read back from its number. -/
theorem readEscape_control {c : Char} (control : c.toNat < 0x20) (rest : List Char) :
    readEscape ('u' :: '0' :: '0' :: Nat.digitChar (c.toNat / 16) ::
      Nat.digitChar (c.toNat % 16) :: rest) = .ok (c, rest) := by
  have high : ¬(0xD800 ≤ c.toNat ∧ c.toNat < 0xDC00) := by omega
  have low : ¬(0xDC00 ≤ c.toNat ∧ c.toNat < 0xE000) := by omega
  simp only [readEscape, readUnit_control control, bind, Except.bind, if_neg high, if_neg low,
    Char.ofNat_toNat]
  rfl

/-- A character is read back from its sign. -/
theorem readEscape_sign {c sign : Char} (known : sign? c = some sign) (rest : List Char) :
    readEscape (sign :: rest) = .ok (c, rest) := by
  unfold sign? at known
  split at known <;> cases known <;> rfl

/-- Reading takes back one written character. -/
theorem readText_escape (fuel : Nat) (read : List Char) (c : Char) (rest : List Char) :
    readText (fuel + 1) read (escaped c ++ rest) = readText fuel (c :: read) rest := by
  cases known : sign? c with
  | some sign =>
      simp only [escaped, known, List.cons_append, List.nil_append, readText,
        readEscape_sign known]
  | none =>
      by_cases control : c.toNat < 0x20
      · simp only [escaped, known, if_pos control, List.cons_append, List.nil_append, readText,
          readEscape_control control]
      · simp only [escaped, known, if_neg control, List.cons_append, List.nil_append]
        -- the character is neither of those that end a text or begin an escape
        rw [readText, if_neg control]
        · rintro rfl
          cases known
        · rintro rfl
          cases known

/-- Reading takes back a written text up to the quote after it. -/
theorem readText_escaped (text read rest : List Char) (fuel : Nat) (enough : text.length < fuel) :
    readText fuel read (text.flatMap escaped ++ '"' :: rest) =
      .ok (String.ofList (read.reverse ++ text), rest) := by
  induction text generalizing fuel read with
  | nil =>
      obtain ⟨fuel, rfl⟩ := Nat.exists_eq_add_of_lt enough
      simp [readText]
  | cons c text ih =>
      cases fuel with
      | zero => cases enough
      | succ fuel =>
          rw [List.flatMap_cons, List.append_assoc, readText_escape,
            ih (c :: read) fuel (Nat.lt_of_succ_lt_succ enough), List.reverse_cons,
            List.append_assoc, List.singleton_append]

/-- A value that begins with a quote is a text. -/
theorem readValue_quote (fuel : Nat) (text : List Char) :
    readValue (fuel + 1) ('"' :: text) =
      (readText fuel [] text).map fun read => (.string read.1, read.2) := by
  have stripped : skipBlanks ('"' :: text) = '"' :: text := rfl
  simp only [readValue, stripped]

/-- **A text that is printed as a JSON value is read back.** -/
theorem parse_print_string (text : String) : parse (print (.string text)) = .ok (.string text) := by
  have printed : (print (.string text)).toList = '"' :: (text.toList.flatMap escaped ++ ['"']) := by
    simp only [print, printText, String.toList_ofList, List.cons_append]
  have enough : text.toList.length < (print (.string text)).toList.length := by
    have := length_le_flatMap_escaped text.toList
    rw [printed, List.length_cons, List.length_append]
    omega
  have value : readValue ((print (.string text)).toList.length + 1) (print (.string text)).toList =
      .ok (.string text, []) := by
    generalize (print (.string text)).toList.length = fuel at enough ⊢
    rw [printed, readValue_quote, readText_escaped text.toList [] [] fuel enough,
      List.reverse_nil, List.nil_append, String.ofList_toList]
    rfl
  simp only [parse, value]
  rfl

end Cqrs.Json
