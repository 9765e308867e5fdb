/-
# Proofs.Text.Sigma -- what lower-casing a part of a text has to do with lower-casing the whole

Characters are put in lower case one by one, except for the capital sigma, whose form depends on its
nearest neighbours that are not ignorable.  So a text within another one is in lower case what it is
alone if its sigmas keep their forms there (`infix_lowercase`).  A sigma keeps it everywhere if its
neighbours within the text decide (`Decisive`).  Any other one changes its form before or after an
`a`, and as more text before makes no plain form and more text after no final one, that leaves too
few of these for the text to be found (`sigmasSettled_iff_occurs`).
-/
import Cqrs.Text.Lowercase

namespace Cqrs.Text

set_option autoImplicit false

/-! ## One sigma -/

/-- The first character that is not ignorable. -/
def neighbour? (text : List Char) : Option Char :=
  text.find? fun c => !isCaseIgnorable c

/-- A sigma between two neighbours is the last letter of a word. -/
def endsWord (before after : Option Char) : Bool :=
  before.any isCased && !after.any isCased

/-- The neighbours that a sigma has within a text decide on its form: it has both, or the one that
it has is enough. -/
def Decisive : Option Char → Option Char → Prop
  | some _, some _ => True
  | some c, none => isCased c = false
  | none, some c => isCased c = true
  | none, none => False

instance (before after : Option Char) : Decidable (Decisive before after) :=
  match before, after with
  | some _, some _ => inferInstanceAs (Decidable True)
  | some c, none => inferInstanceAs (Decidable (isCased c = false))
  | none, some c => inferInstanceAs (Decidable (isCased c = true))
  | none, none => inferInstanceAs (Decidable False)

theorem neighbour?_append (text more : List Char) :
    neighbour? (text ++ more) = (neighbour? text).or (neighbour? more) :=
  List.find?_append

theorem meetsCased_eq (text : List Char) : meetsCased text = (neighbour? text).any isCased := by
  induction text with
  | nil => rfl
  | cons c rest ih =>
      unfold meetsCased neighbour? at *
      cases ignorable : isCaseIgnorable c <;> simp [ignorable, ih]

theorem neighbour?_a : neighbour? ['a'] = some 'a' := by decide +kernel

theorem isCased_a : isCased 'a' = true := by decide +kernel

theorem lowerSigma_eq (before after : List Char) :
    lowerSigma before after =
      if endsWord (neighbour? before) (neighbour? after) then 'ς' else 'σ' := by
  rw [lowerSigma, meetsCased_eq, meetsCased_eq, endsWord]

theorem lowerSigma_final_iff {before after : List Char} :
    lowerSigma before after = 'ς' ↔ endsWord (neighbour? before) (neighbour? after) = true := by
  rw [lowerSigma_eq]
  split <;> simp_all

theorem lowerSigma_plain_iff {before after : List Char} :
    lowerSigma before after = 'σ' ↔ endsWord (neighbour? before) (neighbour? after) = false := by
  rw [lowerSigma_eq]
  split <;> simp_all

section

variable {before after : Option Char}

/-- More text after a sigma does not make it the last letter. -/
theorem endsWord_of_or_after {further : Option Char}
    (ends : endsWord before (after.or further) = true) : endsWord before after = true := by
  cases after with
  | none => simp_all [endsWord]
  | some c => exact ends

/-- More text before a sigma does not take it away from the end of a word. -/
theorem endsWord_or_before {further : Option Char} (ends : endsWord before after = true) :
    endsWord (before.or further) after = true := by
  cases before with
  | none => cases ends
  | some c => exact ends

theorem Decisive.endsWord (decisive : Decisive before after) (earlier later : Option Char) :
    endsWord (before.or earlier) (after.or later) = endsWord before after := by
  cases before <;> cases after <;> simp_all [Decisive, Text.endsWord]

/-- If neither a letter before nor one after matters, the neighbours decide. -/
theorem decisive_of_endsWord {letter : Char} (cased : isCased letter = true)
    (follow : endsWord before after = true → endsWord before (after.or (some letter)) = true)
    (lead : endsWord before after = false → endsWord (before.or (some letter)) after = false) :
    Decisive before after := by
  cases before <;> cases after <;> simp_all [Decisive, endsWord]

end

/-! ## All sigmas of a text -/

/-- Something is said of every capital sigma of a text that stands after another one: of the text
before it, given backwards, and of the one after it. -/
def EachSigma (holds : List Char → List Char → Prop) (before : List Char) : List Char → Prop
  | [] => True
  | c :: rest => (c = 'Σ' → holds before rest) ∧ EachSigma holds (c :: before) rest

theorem eachSigma_iff {holds : List Char → List Char → Prop} {before text : List Char} :
    EachSigma holds before text ↔
      ∀ left right, text = left ++ 'Σ' :: right → holds (left.reverse ++ before) right := by
  induction text generalizing before with
  | nil => simp [EachSigma]
  | cons c rest ih =>
      rw [EachSigma, ih]
      constructor
      · rintro ⟨first, others⟩ left right split
        cases left with
        | nil =>
            cases split
            exact first rfl
        | cons d left =>
            cases split
            simpa using others left right rfl
      · intro all
        refine ⟨?_, fun left right split => ?_⟩
        · rintro rfl
          exact all [] rest rfl
        · simpa using all (c :: left) right (by rw [split, List.cons_append])

theorem EachSigma.imp {holds concludes : List Char → List Char → Prop}
    (implies : ∀ left right, holds left right → concludes left right) {before text : List Char}
    (each : EachSigma holds before text) : EachSigma concludes before text := by
  rw [eachSigma_iff] at each ⊢
  exact fun left right split => implies _ _ (each left right split)

instance EachSigma.decidable {holds : List Char → List Char → Prop}
    [∀ before after, Decidable (holds before after)] (before : List Char) :
    (text : List Char) → Decidable (EachSigma holds before text)
  | [] => inferInstanceAs (Decidable True)
  | c :: rest =>
      have : Decidable (EachSigma holds (c :: before) rest) :=
        EachSigma.decidable (c :: before) rest
      inferInstanceAs
        (Decidable ((c = 'Σ' → holds before rest) ∧ EachSigma holds (c :: before) rest))

/-- The sigmas of a text have the forms between two texts, the one before it backwards, that they
have alone. -/
def SigmasKeep (before text after : List Char) : Prop :=
  EachSigma (fun left right =>
    lowerSigma (left ++ before) (right ++ after) = lowerSigma left right) [] text

/-- The neighbours within a text decide on the form of each of its sigmas. -/
def SigmasSettled (text : List Char) : Prop :=
  EachSigma (fun left right => Decisive (neighbour? left) (neighbour? right)) [] text

instance (text : List Char) : Decidable (SigmasSettled text) :=
  inferInstanceAs (Decidable (EachSigma _ [] text))

theorem SigmasSettled.keep {text : List Char} (settled : SigmasSettled text)
    (before after : List Char) : SigmasKeep before text after := by
  refine settled.imp fun left right decisive => ?_
  rw [lowerSigma_eq, lowerSigma_eq, neighbour?_append, neighbour?_append, decisive.endsWord]

/-- A text without a capital sigma has nothing to settle. -/
theorem sigmasSettled_of_not_mem {text : List Char} (none : 'Σ' ∉ text) : SigmasSettled text := by
  rw [SigmasSettled, eachSigma_iff]
  rintro left right rfl
  simp at none

/-! ## Lower case within a text -/

/-- Lower-cases a text between two others, the one before it given backwards. -/
def lowercaseBetween (before : List Char) : List Char → List Char → List Char
  | [], _ => []
  | c :: rest, after =>
      (if c = 'Σ' then [lowerSigma before (rest ++ after)] else lowerChar c) ++
        lowercaseBetween (c :: before) rest after

theorem lowercaseBetween_nil (before text : List Char) :
    lowercaseBetween before text [] = lowercaseAfter before text := by
  induction text generalizing before with
  | nil => rfl
  | cons c rest ih => rw [lowercaseBetween, lowercaseAfter, ih, List.append_nil]

theorem lowercaseAfter_append (before text after : List Char) :
    lowercaseAfter before (text ++ after) =
      lowercaseBetween before text after ++ lowercaseAfter (text.reverse ++ before) after := by
  induction text generalizing before with
  | nil => rfl
  | cons c rest ih =>
      rw [List.cons_append, lowercaseAfter, lowercaseBetween, ih, List.append_assoc,
        List.reverse_cons, List.append_assoc, List.singleton_append]

/-- With the sigmas in the forms that they have alone, so is the text. -/
theorem lowercaseBetween_eq {done before text after : List Char}
    (keep : EachSigma (fun left right =>
      lowerSigma (left ++ before) (right ++ after) = lowerSigma left right) done text) :
    lowercaseBetween (done ++ before) text after = lowercaseAfter done text := by
  induction text generalizing done with
  | nil => rfl
  | cons c rest ih =>
      obtain ⟨first, others⟩ := keep
      have tail : lowercaseBetween (c :: (done ++ before)) rest after =
          lowercaseAfter (c :: done) rest := ih others
      rw [lowercaseBetween, lowercaseAfter, tail]
      by_cases sigma : c = 'Σ'
      · rw [if_pos sigma, if_pos sigma, first sigma]
      · rw [if_neg sigma, if_neg sigma]

/-- **A text occurs in lower case where it occurs**, if its sigmas keep their forms there. -/
theorem infix_lowercase {before text after : List Char}
    (keep : SigmasKeep before.reverse text after) :
    lowercase text <:+: lowercase (before ++ text ++ after) := by
  have within : lowercaseBetween before.reverse text after = lowercase text :=
    lowercaseBetween_eq keep
  have whole : lowercase (before ++ text ++ after) =
      lowercaseBetween [] before (text ++ after) ++ (lowercase text ++
        lowercaseAfter (text.reverse ++ before.reverse) after) := by
    rw [← within, ← lowercaseAfter_append, List.append_assoc, lowercase, lowercaseAfter_append,
      List.append_nil]
  rw [whole, ← List.append_assoc]
  exact ⟨_, _, rfl⟩

/-! ## Counting forms -/

theorem count_singleton_lost {form now was : Char} (lost : now = form → was = form) :
    [now].count form ≤ [was].count form ∧
      ([was].count form ≤ [now].count form → was = form → now = form) := by
  rw [List.count_singleton, List.count_singleton]
  by_cases has : now = form
  · simp [has, lost has]
  · by_cases had : was = form <;> simp [has, had]

/-- Where more text takes a form away from sigmas and gives it to none, there is no more of it, and
as much of it only where nothing was taken away. -/
theorem count_lowercaseBetween {form : Char} {before after : List Char}
    (lost : ∀ left right, lowerSigma (left ++ before) (right ++ after) = form →
      lowerSigma left right = form) (done text : List Char) :
    (lowercaseBetween (done ++ before) text after).count form ≤
        (lowercaseAfter done text).count form ∧
      ((lowercaseAfter done text).count form ≤
          (lowercaseBetween (done ++ before) text after).count form →
        EachSigma (fun left right => lowerSigma left right = form →
          lowerSigma (left ++ before) (right ++ after) = form) done text) := by
  induction text generalizing done with
  | nil => exact ⟨Nat.le_refl _, fun _ => trivial⟩
  | cons c rest ih =>
      obtain ⟨fewer, kept⟩ := ih (c :: done)
      rw [List.cons_append] at fewer kept
      rw [lowercaseBetween, lowercaseAfter, List.count_append, List.count_append]
      by_cases sigma : c = 'Σ'
      · obtain ⟨less, same⟩ := count_singleton_lost (lost done rest)
        rw [if_pos sigma, if_pos sigma]
        exact ⟨by omega, fun all => ⟨fun _ => same (by omega), kept (by omega)⟩⟩
      · rw [if_neg sigma, if_neg sigma]
        exact ⟨by omega, fun all => ⟨fun other => absurd other sigma, kept (by omega)⟩⟩

theorem lowercaseAfter_a (before : List Char) : lowercaseAfter before ['a'] = ['a'] := rfl

/-- A text that is found with a letter after it keeps its final sigmas there. -/
theorem eachSigma_of_infix_after {text : List Char}
    (found : lowercase text <:+: lowercase (text ++ ['a'])) :
    EachSigma (fun left right => endsWord (neighbour? left) (neighbour? right) = true →
      endsWord (neighbour? left) ((neighbour? right).or (some 'a')) = true) [] text := by
  have lost : ∀ left right, lowerSigma (left ++ []) (right ++ ['a']) = 'ς' →
      lowerSigma left right = 'ς' := by
    intro left right final
    rw [List.append_nil, lowerSigma_final_iff, neighbour?_append] at final
    exact lowerSigma_final_iff.mpr (endsWord_of_or_after final)
  have whole : lowercase (text ++ ['a']) = lowercaseBetween [] text ['a'] ++ ['a'] := by
    rw [lowercase, lowercaseAfter_append, lowercaseAfter_a]
  have counted := found.sublist.count_le 'ς'
  rw [whole, List.count_append] at counted
  refine ((count_lowercaseBetween lost [] text).2 counted).imp fun left right keeps => ?_
  rwa [List.append_nil, lowerSigma_final_iff, lowerSigma_final_iff, neighbour?_append,
    neighbour?_a] at keeps

/-- A text that is found with a letter before it keeps its plain sigmas there. -/
theorem eachSigma_of_infix_before {text : List Char}
    (found : lowercase text <:+: lowercase ('a' :: text)) :
    EachSigma (fun left right => endsWord (neighbour? left) (neighbour? right) = false →
      endsWord ((neighbour? left).or (some 'a')) (neighbour? right) = false) [] text := by
  have lost : ∀ left right, lowerSigma (left ++ ['a']) (right ++ []) = 'σ' →
      lowerSigma left right = 'σ' := by
    intro left right plain
    rw [List.append_nil, lowerSigma_plain_iff, neighbour?_append] at plain
    rw [lowerSigma_plain_iff, Bool.eq_false_iff]
    exact fun ends => Bool.eq_false_iff.mp plain (endsWord_or_before ends)
  have whole : lowercase ('a' :: text) = 'a' :: lowercaseBetween ['a'] text [] := by
    rw [lowercaseBetween_nil]
    rfl
  have counted := found.sublist.count_le 'σ'
  rw [whole, List.count_cons_of_ne (by decide)] at counted
  refine ((count_lowercaseBetween lost [] text).2 counted).imp fun left right keeps => ?_
  rwa [List.append_nil, lowerSigma_plain_iff, lowerSigma_plain_iff, neighbour?_append,
    neighbour?_a] at keeps

/-- **A text occurs in lower case wherever it occurs exactly if its sigmas are settled.** -/
theorem sigmasSettled_iff_occurs {text : List Char} :
    SigmasSettled text ↔ ∀ whole, text <:+: whole → lowercase text <:+: lowercase whole := by
  constructor
  · rintro settled _ ⟨before, after, rfl⟩
    exact infix_lowercase (settled.keep _ _)
  · intro found
    have follow := eachSigma_of_infix_after (found (text ++ ['a']) ⟨[], ['a'], rfl⟩)
    have lead := eachSigma_of_infix_before (found ('a' :: text) ⟨['a'], [], by simp⟩)
    rw [SigmasSettled, eachSigma_iff]
    rw [eachSigma_iff] at follow lead
    intro left right split
    exact decisive_of_endsWord isCased_a (follow left right split) (lead left right split)

end Cqrs.Text
