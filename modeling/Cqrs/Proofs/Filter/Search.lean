/-
# Proofs.Filter.Search -- what a search for a text finds

A criterion with `like` looks for one text in another after both are put in lower case, each on its
own (`meets_like_iff`).  Whether what occurs in a text is found there is therefore a question about
lower-casing: of what is looked for, and of the text where more text is around it.
-/
import Cqrs.Bank.Projection
import Cqrs.Proofs.Filter.Criterion
import Cqrs.Proofs.Text.Sigma

namespace Cqrs.Filter

set_option autoImplicit false

open Text (SigmasKeep SigmasSettled infix_lowercase sigmasSettled_iff_occurs)

theorem occursIn_iff (part whole : List Char) : occursIn part whole = true ↔ part <:+: whole := by
  induction whole with
  | nil => rw [occursIn, List.isEmpty_iff, List.infix_nil]
  | cons c rest ih =>
      rw [occursIn, Bool.or_eq_true, List.isPrefixOf_iff_prefix, ih, List.infix_cons_iff]

section

variable {π : Type} [Projection π] {projection : π} {field : String}

/-- A search finds what occurs in lower case. -/
theorem meets_like_iff {text : String} (exposes : Exposes projection field (.string text))
    (needle : String) :
    Meets projection field .like (.string needle) ↔
      Text.lowercase needle.toList <:+: Text.lowercase text.toList := by
  have scalar : (Json.string needle).isScalar = true := rfl
  rw [meets_scalar_iff exposes (by decide), and_iff_right scalar, ← occursIn_iff]
  rfl

/-- **What occurs in a text is found there, and in more text, exactly if its sigmas are settled.**
Let a field be able to show any text.  A text is found wherever it occurs just if its sigmas are
settled, and a text keeps what is found in it when there is more text around it just if its own are.
In one place it is enough that the sigmas have the forms there that they have alone, of the text
that is looked for and of the one that is added to.  Without capital sigmas nothing is lost. -/
theorem occurrences_found_iff
    (shows : ∀ text, ∃ projection : π, Exposes projection field (.string text)) :
    (∀ needle : String,
      (∀ (projection : π) (text : String), Exposes projection field (.string text) →
        needle.toList <:+: text.toList → Meets projection field .like (.string needle)) ↔
      SigmasSettled needle.toList) ∧
    (∀ text : String,
      (∀ (projection larger : π) (needle whole : String),
        Exposes projection field (.string text) → Exposes larger field (.string whole) →
        text.toList <:+: whole.toList → Meets projection field .like (.string needle) →
        Meets larger field .like (.string needle)) ↔
      SigmasSettled text.toList) ∧
    (∀ (projection : π) (needle text : String) (before after : List Char),
      Exposes projection field (.string text) → text.toList = before ++ needle.toList ++ after →
      SigmasKeep before.reverse needle.toList after →
      Meets projection field .like (.string needle)) ∧
    (∀ (projection larger : π) (needle text whole : String) (before after : List Char),
      Exposes projection field (.string text) → Exposes larger field (.string whole) →
      whole.toList = before ++ text.toList ++ after →
      SigmasKeep before.reverse text.toList after →
      Meets projection field .like (.string needle) →
      Meets larger field .like (.string needle)) ∧
    ∀ text : List Char, 'Σ' ∉ text → SigmasSettled text := by
  refine ⟨fun needle => ?_, fun text => ?_, ?_, ?_, fun _ => Text.sigmasSettled_of_not_mem⟩
  · rw [sigmasSettled_iff_occurs]
    constructor
    · intro found whole occurs
      obtain ⟨projection, exposes⟩ := shows (String.ofList whole)
      have := found projection _ exposes (by rwa [String.toList_ofList])
      rwa [meets_like_iff exposes, String.toList_ofList] at this
    · intro found projection text exposes occurs
      exact (meets_like_iff exposes needle).mpr (found _ occurs)
  · rw [sigmasSettled_iff_occurs]
    constructor
    · intro kept whole occurs
      obtain ⟨projection, exposes⟩ := shows text
      obtain ⟨larger, exposesMore⟩ := shows (String.ofList whole)
      have itself := (meets_like_iff exposes text).mpr (List.infix_refl _)
      have := kept projection larger text _ exposes exposesMore
        (by rwa [String.toList_ofList]) itself
      rwa [meets_like_iff exposesMore, String.toList_ofList] at this
    · intro found projection larger needle whole exposes exposesMore occurs met
      rw [meets_like_iff exposes] at met
      exact (meets_like_iff exposesMore needle).mpr (met.trans (found _ occurs))
  · intro projection needle text before after exposes split keep
    rw [meets_like_iff exposes, split]
    exact infix_lowercase keep
  · intro projection larger needle text whole before after exposes exposesMore split keep met
    rw [meets_like_iff exposes] at met
    rw [meets_like_iff exposesMore, split]
    exact met.trans (infix_lowercase keep)

end

/-- A projection of an account with any text for its identifier. -/
def accountNamed (text : String) : Bank.AccountProjection :=
  ⟨text, 0, "USD", []⟩

theorem exposes_accountNamed (text : String) : Exposes (accountNamed text) "id" (.string text) :=
  ⟨by decide, rfl, nofun⟩

/-- A text whose sigma stands between letters is found wherever it occurs, and one that ends in a
sigma is not. -/
theorem occurrences_found_iff_accountNamed :
    (∀ text, ∃ projection : Bank.AccountProjection, Exposes projection "id" (.string text)) ∧
      Meets (accountNamed "ΧΑΣΒ") "id" .like (.string "ΑΣΒ") ∧
      ¬∀ (projection : Bank.AccountProjection) (text : String),
        Exposes projection "id" (.string text) → "ΑΣ".toList <:+: text.toList →
        Meets projection "id" .like (.string "ΑΣ") := by
  have shows : ∀ text, ∃ projection : Bank.AccountProjection,
      Exposes projection "id" (.string text) :=
    fun text => ⟨accountNamed text, exposes_accountNamed text⟩
  obtain ⟨found, -⟩ := occurrences_found_iff shows
  refine ⟨shows, ?_, fun all => ?_⟩
  · exact (found "ΑΣΒ").mpr (by decide +kernel) _ _ (exposes_accountNamed "ΧΑΣΒ") ⟨['Χ'], [], rfl⟩
  · exact absurd ((found "ΑΣ").mp all) (by decide +kernel)

/-- A text that ends in a sigma is found in itself, but not with a letter after it. -/
theorem final_sigma_not_found :
    "ΑΣ".toList <:+: "ΑΣΒ".toList ∧
      Meets (accountNamed "ΑΣ") "id" .like (.string "ΑΣ") ∧
      ¬Meets (accountNamed "ΑΣΒ") "id" .like (.string "ΑΣ") := by
  refine ⟨⟨[], ['Β'], rfl⟩, ?_, ?_⟩
  · rw [meets_scalar_iff (exposes_accountNamed "ΑΣ") (by decide)]
    decide +kernel
  · rw [meets_scalar_iff (exposes_accountNamed "ΑΣΒ") (by decide)]
    decide +kernel

end Cqrs.Filter
