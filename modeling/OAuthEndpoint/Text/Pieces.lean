/-! Cutting lists at separators.  `split` cuts at every separator and always gives at least one
piece, and `join_split` says that nothing but the separators is lost; `cut` cuts at the first. -/

namespace OAuthEndpoint.Text

variable {α : Type}

/-- One more element at the front of the first piece. -/
def pushFirst (a : α) : List (List α) → List (List α)
  | [] => [[a]]
  | piece :: pieces => (a :: piece) :: pieces

theorem pushFirst_ne_nil (a : α) (pieces : List (List α)) : pushFirst a pieces ≠ [] := by
  cases pieces <;> simp [pushFirst]

/-- The pieces between the separators, empty ones included. -/
def split (isSep : α → Bool) (text : List α) : List (List α) :=
  text.foldr (fun a pieces => if isSep a then [] :: pieces else pushFirst a pieces) [[]]

@[simp] theorem split_nil (isSep : α → Bool) : split isSep [] = [[]] := rfl

theorem split_cons_sep {isSep : α → Bool} {a : α} (text : List α) (h : isSep a = true) :
    split isSep (a :: text) = [] :: split isSep text := by
  simp [split, h]

theorem split_cons_other {isSep : α → Bool} {a : α} (text : List α) (h : isSep a = false) :
    split isSep (a :: text) = pushFirst a (split isSep text) := by
  simp [split, h]

theorem split_ne_nil (isSep : α → Bool) (text : List α) : split isSep text ≠ [] := by
  cases text with
  | nil => simp
  | cons a text =>
    cases h : isSep a with
    | true => simp [split_cons_sep text h]
    | false => rw [split_cons_other text h]; exact pushFirst_ne_nil a _

/-- What stands before the first separator and, if there is one, what stands after it. -/
def cut (isSep : α → Bool) (text : List α) : List α × Option (List α) :=
  (text.takeWhile fun a => !isSep a,
    match text.dropWhile fun a => !isSep a with
    | [] => none
    | _ :: after => some after)

theorem cut_append_cons {isSep : α → Bool} {before : List α} (h : ∀ a ∈ before, isSep a = false)
    {sep : α} (hsep : isSep sep = true) (after : List α) :
    cut isSep (before ++ sep :: after) = (before, some after) := by
  have hbefore : ∀ a ∈ before, (!isSep a) = true := by simpa using h
  rw [cut, List.takeWhile_append_of_pos hbefore, List.dropWhile_append_of_pos hbefore]
  simp [hsep]

theorem cut_eq_self {isSep : α → Bool} {text : List α} (h : ∀ a ∈ text, isSep a = false) :
    cut isSep text = (text, none) := by
  induction text with
  | nil => rfl
  | cons a text ih =>
    have hrest := ih fun b hb => h b (List.mem_cons_of_mem a hb)
    simp only [cut, Prod.mk.injEq] at hrest
    simp [cut, h a List.mem_cons_self, hrest]

/-- The pieces with one separator between each two. -/
def join (sep : List α) : List (List α) → List α
  | [] => []
  | [piece] => piece
  | piece :: pieces => piece ++ sep ++ join sep pieces

theorem join_cons_of_ne_nil (sep piece : List α) {pieces : List (List α)} (h : pieces ≠ []) :
    join sep (piece :: pieces) = piece ++ sep ++ join sep pieces := by
  cases pieces with
  | nil => exact absurd rfl h
  | cons _ _ => rfl

theorem join_pushFirst (sep : List α) (a : α) {pieces : List (List α)} (h : pieces ≠ []) :
    join sep (pushFirst a pieces) = a :: join sep pieces := by
  match pieces, h with
  | [_], _ => rfl
  | _ :: _ :: _, _ => rfl

theorem join_split [BEq α] [LawfulBEq α] (sep : α) (text : List α) :
    join [sep] (split (· == sep) text) = text := by
  induction text with
  | nil => rfl
  | cons a text ih =>
    by_cases h : a = sep
    · subst h
      rw [split_cons_sep text (by simp), join_cons_of_ne_nil _ _ (split_ne_nil _ _), ih]
      rfl
    · rw [split_cons_other text (by simpa using h), join_pushFirst _ _ (split_ne_nil _ _), ih]

/-- What follows a prefix, if the text starts with it. -/
def after? [BEq α] (start : List α) (text : List α) : Option (List α) :=
  match start, text with
  | [], text => some text
  | _ :: _, [] => none
  | a :: start, b :: text => if a == b then after? start text else none

theorem after?_eq_some_iff [BEq α] [LawfulBEq α] {start text rest : List α} :
    after? start text = some rest ↔ text = start ++ rest := by
  induction start generalizing text with
  | nil => simp [after?]
  | cons a start ih =>
    cases text with
    | nil => simp [after?]
    | cons b text =>
      by_cases h : a = b
      · simp [after?, h, ih]
      · simp [after?, h, Ne.symm h]

end OAuthEndpoint.Text
