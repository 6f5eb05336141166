import Mathlib.Data.List.Basic
import OneInfra.Lib.FilePath

/-!
# Names of stored objects

The API server accepts as the name of an object a subdomain in the sense of RFC 1123:
labels of lower case letters, digits and dashes, with dots between them, where a label
starts and ends with a letter or a digit.  The name of a namespace is one such label, and
so it is a subdomain too.
-/

namespace OneInfra.Lib.DNSName

/-- A lower case letter or a digit. -/
def isAlphanumeric (char : Char) : Bool := char.isLower || char.isDigit

/-- The characters of a label. -/
def isLabel (label : List Char) : Bool :=
  (label.head?.any isAlphanumeric) && (label.getLast?.any isAlphanumeric) &&
    label.all fun char => isAlphanumeric char || char = '-'

/-- The name is a subdomain. -/
def isDNS1123Subdomain (name : String) : Bool :=
  decide (name.length ≤ 253) && (name.toList.splitOn '.').all isLabel

/-- Only the separator is lost in a split. -/
theorem mem_of_mem_splitOn {α : Type} [DecidableEq α] {sep x : α} {l : List α} (hx : x ∈ l)
    (hne : x ≠ sep) : ∃ part ∈ l.splitOn sep, x ∈ part := by
  induction l with
  | nil => cases hx
  | cons y l ih =>
    rw [List.splitOn_cons_eq_if_modifyHead]
    split
    · next heq =>
      have hxl : x ∈ l := by
        rcases List.mem_cons.mp hx with rfl | hxl
        · exact absurd (eq_of_beq heq) hne
        · exact hxl
      obtain ⟨part, hpart, hmem⟩ := ih hxl
      exact ⟨part, List.mem_cons_of_mem _ hpart, hmem⟩
    · cases hsplit : l.splitOn sep with
      | nil => exact absurd hsplit (List.splitOn_ne_nil sep l)
      | cons first rest =>
        rw [List.modifyHead_cons]
        rcases List.mem_cons.mp hx with rfl | hxl
        · exact ⟨x :: first, List.mem_cons_self, List.mem_cons_self⟩
        · obtain ⟨part, hpart, hmem⟩ := ih hxl
          rw [hsplit] at hpart
          rcases List.mem_cons.mp hpart with rfl | hpart
          · exact ⟨y :: part, List.mem_cons_self, List.mem_cons_of_mem _ hmem⟩
          · exact ⟨part, List.mem_cons_of_mem _ hpart, hmem⟩

theorem isAlphanumeric_of_isLabel {label : List Char} {char : Char} (h : isLabel label = true)
    (hchar : char ∈ label) : isAlphanumeric char = true ∨ char = '-' := by
  unfold isLabel at h
  simp only [Bool.and_eq_true, List.all_eq_true, Bool.or_eq_true, decide_eq_true_eq] at h
  exact h.2 char hchar

/-- The characters of a name. -/
theorem isAlphanumeric_of_mem {name : String} {char : Char} (h : isDNS1123Subdomain name = true)
    (hchar : char ∈ name.toList) : isAlphanumeric char = true ∨ char = '-' ∨ char = '.' := by
  by_cases hdot : char = '.'
  · exact .inr (.inr hdot)
  · obtain ⟨part, hpart, hmem⟩ := mem_of_mem_splitOn hchar hdot
    unfold isDNS1123Subdomain at h
    rw [Bool.and_eq_true, List.all_eq_true] at h
    exact (isAlphanumeric_of_isLabel (h.2 part hpart) hmem).imp_right .inl

theorem no_slash {name : String} (h : isDNS1123Subdomain name = true) : '/' ∉ name.toList := by
  intro hslash
  have hcases := isAlphanumeric_of_mem h hslash
  revert hcases
  decide

/-- A name is a part of a path that cleaning leaves alone. -/
theorem plain {name : String} (h : isDNS1123Subdomain name = true) : FilePath.Plain name where
  ne_empty := by
    rintro rfl
    revert h
    decide
  ne_dot := by
    rintro rfl
    revert h
    decide
  ne_dots := by
    rintro rfl
    revert h
    decide
  no_slash := no_slash h

end OneInfra.Lib.DNSName
