import Mathlib.Data.List.Basic

/-!
# Choosing by preference

The choice between two parties: the first entry of one's list that the other accepts.

* `Preferred ok l a`: `a` is the first entry of `l` with `ok`.
* `find?_eq_some_iff_preferred`: what `List.find?` finds, in these terms.
* `Preferred.congr`: what is acceptable matters only on the list.
-/

set_option autoImplicit false

variable {α : Type*}

/-- `a` is the first entry of `l` with `ok`. -/
def Preferred (ok : α → Prop) (l : List α) (a : α) : Prop :=
  ok a ∧ ∃ before after, l = before ++ a :: after ∧ ∀ b ∈ before, ¬ ok b

theorem Preferred.mem {ok : α → Prop} {l : List α} {a : α} (h : Preferred ok l a) : a ∈ l := by
  obtain ⟨-, before, after, rfl, -⟩ := h
  exact List.mem_append_right _ List.mem_cons_self

theorem find?_eq_some_iff_preferred {p : α → Bool} {l : List α} {a : α} :
    l.find? p = some a ↔ Preferred (fun b ↦ p b = true) l a := by
  rw [List.find?_eq_some_iff_append, Preferred]
  simp

/-- What is acceptable matters only on the list. -/
theorem Preferred.congr {ok ok' : α → Prop} {l : List α} {a : α}
    (hok : ∀ b ∈ l, ok b ↔ ok' b) (h : Preferred ok l a) : Preferred ok' l a := by
  obtain ⟨ha, before, after, rfl, hnone⟩ := h
  refine ⟨(hok a (by simp)).mp ha, before, after, rfl, fun b hb hb' ↦ ?_⟩
  exact hnone b hb ((hok b (List.mem_append_left _ hb)).mpr hb')
