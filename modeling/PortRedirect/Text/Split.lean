import Mathlib.Data.List.Infix

namespace PortRedirect.Text

universe u

/-! Splitting a text at a separator of several characters, from the left. -/

section Split

variable {α : Type u} {separator front rest : List α}

/-- No occurrence of a separator begins in a text, whatever follows it. -/
def Clear (separator : List α) : List α → Prop
  | [] => True
  | value :: rest =>
      (¬ separator <+: value :: rest ∧ ¬ value :: rest <+: separator) ∧ Clear separator rest

theorem not_prefix_append (apart : ¬ separator <+: front ∧ ¬ front <+: separator)
    (rest : List α) : ¬ separator <+: front ++ rest := by
  intro begins
  rcases List.prefix_or_prefix_of_prefix begins (List.prefix_append front rest) with
    inside | around
  · exact apart.1 inside
  · exact apart.2 around

theorem Clear.append (clear : Clear separator front) (clear' : Clear separator rest) :
    Clear separator (front ++ rest) := by
  induction front with
  | nil => exact clear'
  | cons value front ih =>
      refine ⟨⟨not_prefix_append clear.1 rest, ?_⟩, ih clear.2⟩
      exact fun around => clear.1.2 ((List.prefix_append _ _).trans around)

theorem clear_of_notMem {first : α} {others text : List α} (absent : first ∉ text) :
    Clear (first :: others) text := by
  induction text with
  | nil => trivial
  | cons value text ih =>
      rw [List.mem_cons, not_or] at absent
      refine ⟨⟨?_, ?_⟩, ih absent.2⟩
      · exact fun begins => absent.1 (List.cons_prefix_cons.mp begins).1
      · exact fun begins => absent.1 (List.cons_prefix_cons.mp begins).1.symm

variable [DecidableEq α]

instance Clear.decidable (separator : List α) :
    ∀ text : List α, Decidable (Clear separator text)
  | [] => inferInstanceAs (Decidable True)
  | _ :: rest =>
      have := Clear.decidable separator rest
      inferInstanceAs (Decidable (_ ∧ _))

/-- The first `skip` values belong to a separator. -/
def splitFrom (separator : List α) : Nat → List α → List (List α)
  | _, [] => [[]]
  | skip + 1, _ :: rest => splitFrom separator skip rest
  | 0, value :: rest =>
      if separator <+: value :: rest then
        [] :: splitFrom separator (separator.length - 1) rest
      else (splitFrom separator 0 rest).modifyHead (value :: ·)

def splitOn (separator text : List α) : List (List α) := splitFrom separator 0 text

theorem splitFrom_skip (separator front rest : List α) :
    splitFrom separator front.length (front ++ rest) = splitOn separator rest := by
  induction front with
  | nil => rfl
  | cons value front ih => exact ih

theorem splitOn_append_of_clear (clear : Clear separator front) (rest : List α) :
    splitOn separator (front ++ rest) = (splitOn separator rest).modifyHead (front ++ ·) := by
  induction front with
  | nil =>
      rw [List.nil_append]
      cases splitOn separator rest <;> rfl
  | cons value front ih =>
      have apart : ¬ separator <+: value :: (front ++ rest) := not_prefix_append clear.1 rest
      have shorter := ih clear.2
      unfold splitOn at shorter ⊢
      rw [List.cons_append, splitFrom, if_neg apart, shorter, List.modifyHead_modifyHead]
      rfl

theorem splitOn_separator (nonempty : separator ≠ []) (rest : List α) :
    splitOn separator (separator ++ rest) = [] :: splitOn separator rest := by
  cases separator with
  | nil => exact absurd rfl nonempty
  | cons first others =>
      have begins : first :: others <+: first :: (others ++ rest) :=
        List.prefix_append (first :: others) rest
      rw [splitOn, List.cons_append, splitFrom, if_pos begins]
      exact congrArg ([] :: ·) (splitFrom_skip (first :: others) others rest)

/-- A text is split at the first separator that it holds. -/
theorem splitOn_of_clear (nonempty : separator ≠ []) (clear : Clear separator front)
    (rest : List α) :
    splitOn separator (front ++ (separator ++ rest)) = front :: splitOn separator rest := by
  rw [splitOn_append_of_clear clear, splitOn_separator nonempty, List.modifyHead_cons,
    List.append_nil]

theorem splitOn_eq_singleton (clear : Clear separator front) :
    splitOn separator front = [front] := by
  have whole := splitOn_append_of_clear clear []
  rw [List.append_nil] at whole
  rw [whole]
  exact congrArg ([·]) (List.append_nil front)

end Split

end PortRedirect.Text
