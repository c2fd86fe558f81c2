import Mathlib.Algebra.GroupWithZero.Nat
import Mathlib.Data.List.Forall2

/-!
Lists whose members are related place by place, the places of a list of lists, and the beginning
of a list that ends in copies of one item. Computations are related side by side: a relation that
holds of what two of them answer at once and goes through their composition holds of whatever is
put together from related pieces in the same order.
-/

namespace TypeAtlas

set_option autoImplicit false

section Members

variable {α β ε : Type} {relate : α → β → Prop} {parts : List α} {names : List β}

theorem forall_of_zip (same : parts.length = names.length)
    (related : ∀ part name, (part, name) ∈ parts.zip names → relate part name) :
    List.Forall₂ relate parts names :=
  List.forall₂_iff_zip.mpr ⟨same, fun member => related _ _ member⟩

theorem forall_left (each : List.Forall₂ relate parts names) :
    ∀ part ∈ parts, ∃ name, relate part name := by
  induction each with
  | nil => intro part member; cases member
  | cons first _ ih =>
      intro part member
      rcases List.mem_cons.mp member with rfl | later
      · exact ⟨_, first⟩
      · exact ih part later

theorem map_eq_of_each {γ : Type} {left : α → γ} {right : β → γ}
    (each : List.Forall₂ (fun part name => right name = left part) parts names) :
    names.map right = parts.map left := by
  induction each with
  | nil => rfl
  | cons first _ ih => rw [List.map_cons, List.map_cons, first, ih]

theorem map_zip_eq_of_each {γ : Type} {left : α → γ} {both : α × β → γ}
    (each : List.Forall₂ (fun part name => both (part, name) = left part) parts names) :
    (parts.zip names).map both = parts.map left := by
  induction each with
  | nil => rfl
  | cons first _ ih => rw [List.zip_cons_cons, List.map_cons, List.map_cons, first, ih]

/-- A place in the whole is a place in one of the rows, behind all rows before it. -/
theorem getElem?_flatten_iff {rows : List (List α)} {position : Nat} {item : α} :
    rows.flatten[position]? = some item ↔ ∃ above within row, rows[above]? = some row ∧
      row[within]? = some item ∧ position = ((rows.take above).map List.length).sum + within := by
  induction rows generalizing position with
  | nil => simp
  | cons first rows ih =>
      rw [List.flatten_cons]
      constructor
      · intro found
        by_cases inside : position < first.length
        · rw [List.getElem?_append_left inside] at found
          exact ⟨0, position, first, rfl, found, by simp⟩
        · rw [List.getElem?_append_right (by omega)] at found
          obtain ⟨above, within, row, held, placed, rest⟩ := ih.mp found
          refine ⟨above + 1, within, row, held, placed, ?_⟩
          rw [List.take_succ_cons, List.map_cons, List.sum_cons]
          omega
      · intro found
        obtain ⟨above, within, row, held, placed, rfl⟩ := found
        cases above with
        | zero =>
            cases held
            obtain ⟨inside, _⟩ := List.getElem?_eq_some_iff.mp placed
            simpa [List.getElem?_append_left inside] using placed
        | succ above =>
            rw [List.take_succ_cons, List.map_cons, List.sum_cons, Nat.add_assoc,
              List.getElem?_append_right (Nat.le_add_right _ _), Nat.add_sub_cancel_left]
            exact ih.mpr ⟨above, within, row, held, placed, rfl⟩

/-- What is taken does not depend on copies that lie behind it. -/
theorem take_replicate_succ (items : List α) (last : α) (count : Nat) :
    (items ++ List.replicate (count + 1) last).take count =
      (items ++ List.replicate count last).take count := by
  rw [List.take_append, List.take_append, List.take_replicate, List.take_replicate,
    Nat.min_eq_left (by omega), Nat.min_eq_left (by omega)]

/-- A list is answered if each of its members is. -/
theorem mapM_of_each {answer : α → Except ε β}
    (each : List.Forall₂ (fun part name => answer part = .ok name) parts names) :
    parts.mapM answer = .ok names := by
  induction each with
  | nil => rfl
  | cons first _ ih => simp [List.mapM_cons, first, ih, bind, Except.bind, pure, Except.pure]

end Members

section Computations

variable {m n : Type → Type} [Monad m] [Monad n]

/-- A relation between computations of two kinds that goes through their composition. -/
structure Carried (relate : (α : Type) → m α → n α → Prop) : Prop where
  pure : ∀ {α : Type} (value : α), relate α (pure value) (pure value)
  bind : ∀ {α β : Type} {left : m α} {right : n α} {leftNext : α → m β} {rightNext : α → n β},
    relate α left right → (∀ value, relate β (leftNext value) (rightNext value)) →
      relate β (left >>= leftNext) (right >>= rightNext)

variable {relate : (α : Type) → m α → n α → Prop} {α β γ : Type} {left : α → m β} {right : α → n β}

theorem carried_build (carried : Carried relate) {before : m α} {after : n α}
    (related : relate α before after) (build : α → γ) :
    relate γ (before >>= fun value => pure (build value))
      (after >>= fun value => pure (build value)) :=
  carried.bind related fun value => carried.pure (build value)

theorem carried_list [LawfulMonad m] [LawfulMonad n] (carried : Carried relate)
    (each : ∀ part, relate β (left part) (right part)) (parts : List α) :
    relate (List β) (parts.mapM left) (parts.mapM right) := by
  induction parts with
  | nil =>
      rw [List.mapM_nil, List.mapM_nil]
      exact carried.pure []
  | cons part parts ih =>
      rw [List.mapM_cons, List.mapM_cons]
      exact carried.bind (each part) fun first => carried_build carried ih fun rest => first :: rest

end Computations

end TypeAtlas
